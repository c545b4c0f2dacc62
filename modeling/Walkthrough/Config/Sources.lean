import Walkthrough.Config
import Walkthrough.Table
/-!
Where settings come from: variables of the environment whose names start with `GUIDE_`, then the
table `guide` of a settings file, then the defaults.
-/

namespace Walkthrough.Config

open Text

def variableMark : List Char := "GUIDE_".toList

/-- The settings that variables give, named by what follows the mark in lower case. -/
def ofVariables (environment : List (String × String)) : List (String × Setting) :=
  environment.foldl
    (fun given entry =>
      if variableMark.isPrefixOf entry.1.toList then
        Fields.assign given
          (String.ofList (lowerChars (entry.1.toList.drop variableMark.length)))
          (.value (.text entry.2))
      else given) []

inductive LoadError where
  | malformedFile
  | misuse (cause : Misuse)

def LoadError.ofDefect : Table.Defect → LoadError
  | .malformed => malformedFile
  | .tooLong digits => misuse (.tooManyDigits digits)

/-- A settings file may be absent, and may hold a table `guide` or not. -/
def guideTable (file : Option String) : Except LoadError (List (String × Setting)) :=
  match file with
  | none => .ok []
  | some text =>
      match Table.read text with
      | .error defect => .error (.ofDefect defect)
      | .ok fields =>
          match Fields.lookup fields "guide" with
          | none => .ok []
          | some (.table settings) => .ok settings
          | some given => .error (.misuse (.notMapping given.kindName))

def override (lower upper : List (String × Setting)) : List (String × Setting) :=
  upper.foldl (fun given field => Fields.assign given field.1 field.2) lower

def load (environment : List (String × String)) (file : Option String) :
    Except LoadError Config :=
  match guideTable file with
  | .error error => .error error
  | .ok table =>
      match ofSettings (override table (ofVariables environment)) with
      | .ok config => .ok config
      | .error cause => .error (.misuse cause)

def defaultFile : String := "guide.toml"

end Walkthrough.Config
