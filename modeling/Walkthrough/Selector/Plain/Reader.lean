import Walkthrough.Selector.Plain
import Walkthrough.Text.Word
import Walkthrough.Text.Lowercase
import Walkthrough.Text.Quoted
/-!
Reading plain selectors. Brackets and quotes keep what is inside them together; anything that is
not understood is refused with a reason.
-/

namespace Walkthrough.Selector

open Text

inductive Refusal where
  | emptySelector
  | emptyCompound
  | combinator (sign : String)
  | openNegation
  | unsupported (rest : String)
deriving DecidableEq, Repr

def Refusal.reason : Refusal → String
  | emptySelector => "empty selector"
  | emptyCompound => "empty compound"
  | combinator sign => s!"combinator {sign} not supported"
  | openNegation => "unbalanced :not()"
  | unsupported rest => "unsupported token at " ++ quoted rest

def depthChange (letter : Char) : Int :=
  if letter = '(' || letter = '[' then 1
  else if letter = ')' || letter = ']' then -1
  else 0

def isQuoteSign (letter : Char) : Bool :=
  letter = '"' || letter = '\''

def cutOutside (separates : Char → Bool) (depth : Int) (quote : Option Char) :
    List Char → List (List Char)
  | [] => [[]]
  | letter :: rest =>
      let joined := fun (pieces : List (List Char)) =>
        match pieces with
        | [] => [[letter]]
        | piece :: others => (letter :: piece) :: others
      match quote with
      | some sign =>
          joined (cutOutside separates depth (if letter = sign then none else quote) rest)
      | none =>
          if depth = 0 && separates letter then [] :: cutOutside separates depth none rest
          else if isQuoteSign letter then joined (cutOutside separates depth (some letter) rest)
          else joined (cutOutside separates (depth + depthChange letter) none rest)

def isNameStart (letter : Char) : Bool :=
  letter.toNat < 128 && letter.isAlpha || letter = '_'

def isNameLetter (letter : Char) : Bool :=
  isWord letter || letter = '-'

def readName (text : List Char) : Option (List Char × List Char) :=
  let (hyphen, body) := match text with
    | '-' :: rest => (['-'], rest)
    | _ => ([], text)
  match body with
  | first :: rest =>
      if isNameStart first then
        let letters := rest.takeWhile isNameLetter
        some (hyphen ++ first :: letters, rest.drop letters.length)
      else none
  | [] => none

def skipBlanks (text : List Char) : List Char :=
  text.dropWhile isBlank

def readValue (text : List Char) : Option (List Char × List Char) :=
  match text with
  | first :: rest =>
      if isQuoteSign first then
        let value := rest.takeWhile (· != first)
        match rest.drop value.length with
        | _ :: after => some (value, after)
        | [] => none
      else readName text
  | [] => none

def readAttribute (text : List Char) : Option (Test × List Char) :=
  match readName (skipBlanks text) with
  | none => none
  | some (name, afterName) =>
      let named := String.ofList name
      match skipBlanks afterName with
      | ']' :: rest => some (.hasAttribute named, rest)
      | '=' :: rest =>
          match readValue (skipBlanks rest) with
          | none => none
          | some (value, afterValue) =>
              match skipBlanks afterValue with
              | ']' :: after => some (.attribute named (String.ofList value), after)
              | _ => none
      | _ => none

def negationMark : List Char := ":not(".toList

def readTag (text : List Char) : Option (List Test × List Char) :=
  match text with
  | '*' :: rest => some ([], rest)
  | _ =>
      (readName text).map fun found =>
        ([.tag (String.ofList (lowerChars found.1))], found.2)

def readSimple (text : List Char) : Option (Test × List Char) :=
  match text with
  | '#' :: rest =>
      (readName rest).map fun found => (.id (String.ofList found.1), found.2)
  | '.' :: rest =>
      (readName rest).map fun found => (.ofClass (String.ofList found.1), found.2)
  | '[' :: rest => readAttribute rest
  | _ => none

def negated (text : List Char) : Except Refusal (List Char) :=
  match cutOutside (· = ')') 0 none text with
  | inside :: _ :: _ => .ok inside
  | _ => .error .openNegation

mutual

def readCompound (depth : Nat) (text : List Char) : Except Refusal (List Test) :=
  match depth with
  | 0 => .error (.unsupported (String.ofList text))
  | inner + 1 =>
      match readTag text with
      | some (tests, rest) => do return tests ++ (← readTests inner rest)
      | none => if text.isEmpty then .error .emptyCompound else readTests inner text

def readTests (depth : Nat) (text : List Char) : Except Refusal (List Test) :=
  match depth, text with
  | _, [] => .ok []
  | 0, _ => .error (.unsupported (String.ofList text))
  | inner + 1, text =>
      match readSimple text with
      | some (test, rest) => do return test :: (← readTests inner rest)
      | none =>
          if negationMark.isPrefixOf text then do
            let inside ← negated (text.drop negationMark.length)
            let tests ← readCompound inner (trimChars inside)
            let rest := text.drop (negationMark.length + inside.length + 1)
            return .negation tests :: (← readTests inner rest)
          else .error (.unsupported (String.ofList text))

end

/-- Every reading step uses up at least one character. -/
def readWhole (text : List Char) : Except Refusal (List Test) :=
  readCompound (2 * text.length + 2) text

def combinators : List (List Char) :=
  [['>'], ['+'], ['~']]

def readDescent (text : List Char) : Except Refusal Descent :=
  let compounds := (cutOutside isBlank 0 none (trimChars text)).filter fun part => !part.isEmpty
  if compounds.isEmpty then .error .emptySelector
  else
    match compounds.find? combinators.contains with
    | some sign => .error (.combinator (String.ofList sign))
    | none => compounds.mapM readWhole

def Plain.read (selector : String) : Except Refusal Plain :=
  if allBlank selector then .error .emptySelector
  else (cutOutside (· = ',') 0 none selector.toList).mapM readDescent

end Walkthrough.Selector
