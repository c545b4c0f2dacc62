import Walkthrough.Setting.Moment
import Walkthrough.Config.Path
import Walkthrough.Text.Lowercase
import Walkthrough.Decimal.Reader
import Walkthrough.Decimal.Binary64
import Walkthrough.Fault
/-!
Values given for settings. They are converted leniently: numbers may come as text, and anything has
a text of its own.
-/

namespace Walkthrough

/-- A value, or what only a file can give: a moment, or a list or a table that may hold moments. -/
inductive Setting where
  | value (content : Json)
  | moment (instant : Moment)
  | list (items : List Setting)
  | table (fields : List (String × Setting))
deriving Inhabited

namespace Setting

open Decimal Text

def kindName : Setting → String
  | value content => content.kindName
  | moment instant => instant.kindName
  | list _ => "list"
  | table _ => "dict"

mutual

def quotedForm : Setting → String
  | value content => content.quotedForm
  | moment instant => instant.form
  | list items => "[" ++ joinItems items ++ "]"
  | table fields => "\x7b" ++ joinFields fields ++ "\x7d"

def joinItems : List Setting → String
  | [] => ""
  | [item] => quotedForm item
  | item :: rest => quotedForm item ++ ", " ++ joinItems rest

def joinFields : List (String × Setting) → String
  | [] => ""
  | [(name, given)] => quoted name ++ ": " ++ quotedForm given
  | (name, given) :: rest => quoted name ++ ": " ++ quotedForm given ++ ", " ++ joinFields rest

end

mutual

def isOverlong : Setting → Bool
  | value (.int number) => Decimal.isOverlong number
  | list items => anyOverlong items
  | table fields => anyFieldOverlong fields
  | _ => false

def anyOverlong : List Setting → Bool
  | [] => false
  | item :: rest => isOverlong item || anyOverlong rest

def anyFieldOverlong : List (String × Setting) → Bool
  | [] => false
  | (_, given) :: rest => isOverlong given || anyFieldOverlong rest

end

/-! Conversions. -/

def toText (given : Setting) : Except Misuse String :=
  if given.isOverlong then .error .overlongNumber
  else match given with
  | value content => .ok content.display
  | moment instant => .ok instant.text
  | given => .ok given.quotedForm

def toInteger : Setting → Except Misuse Int
  | value (.int number) => .ok number
  | value (.bool truth) => .ok (if truth then 1 else 0)
  | value (.float number) =>
      match Binary64.ofFloat number with
      | .finite found => .ok found.truncated
      | .infinite _ => .error .infiniteInteger
      | .notANumber => .error .undefinedInteger
  | value (.text literal) => (readInteger literal).mapError (Misuse.ofInteger literal)
  | given => .error (.notIntegral given.kindName)

def toReal : Setting → Except Misuse Float
  | value (.float number) => .ok number
  | value (.int number) =>
      if (roundInteger number).isInf then .error .oversizedReal else .ok (roundInteger number)
  | value (.bool truth) => .ok (if truth then 1.0 else 0.0)
  | value (.text literal) =>
      match readFloat literal with
      | some number => .ok number
      | none => .error (.badReal literal)
  | given => .error (.notReal given.kindName)

def toTruth : Setting → Except Misuse Bool
  | value (.bool truth) => .ok truth
  | given => given.toText.map fun text => ["true", "1", "yes", "on"].contains (lower (trim text))

def toPath : Setting → Except Misuse String
  | value (.text path) => .ok (Path.plain path)
  | moment instant => .error (.notPath instant.shortKindName)
  | given => .error (.notPath given.kindName)

end Setting

end Walkthrough
