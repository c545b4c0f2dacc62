import Walkthrough.Text.Pieces
import Walkthrough.Text.Digit
import Walkthrough.Decimal.Reader
/-!
The pseudo-classes that pages do not know, and how a selector that uses them is taken apart.
-/

namespace Walkthrough.Selector

open Text

def customMarks : List String :=
  [":contains(", ":has(", ":text(", ":nth-match("]

def hasCustomMark (selector : String) : Bool :=
  customMarks.any fun mark => includes mark selector

def usesMark (mark : String) (selector : String) : Bool :=
  match breakAt mark.toList selector.toList with
  | some (_, rest) => rest.contains ')'
  | none => false

/-- A selector `base:mark(needle)after`. -/
structure Filter where
  base : String
  needle : String
  after : String
deriving DecidableEq, Repr

/-- The first place, not at the very start, where the mark stands and `read` accepts what follows
it; with the text in front of it. -/
def firstAfterStart {α : Type} (mark : List Char) (read : List Char → Option α) :
    List Char → Option (List Char × α)
  | [] => none
  | letter :: rest =>
      match if mark.isPrefixOf rest then read (rest.drop mark.length) else none with
      | some found => some ([letter], found)
      | none =>
          (firstAfterStart mark read rest).map fun later => (letter :: later.1, later.2)

def isQuote (letter : Char) : Bool :=
  letter.toNat = 34 || letter.toNat = 39

/-- The text in quotes followed by a closing parenthesis; `allowed` says what may be quoted. -/
def readInQuotes (allowed : Char → Bool) (quote : Char) (text : List Char) :
    Option (List Char × List Char) :=
  let needle := text.takeWhile allowed
  match text.drop needle.length with
  | mark :: ')' :: after => if mark = quote then some (needle, after) else none
  | _ => none

/-- A needle up to the first closing parenthesis, in quotes or not, holding neither quotes nor
parentheses that close. -/
def readShort (text : List Char) : Option (List Char × List Char) :=
  let allowed := fun (letter : Char) => !isQuote letter && letter != ')'
  match text with
  | [] => none
  | first :: rest =>
      if isQuote first then readInQuotes allowed first rest
      else
        let needle := text.takeWhile allowed
        match text.drop needle.length with
        | ')' :: after => some (needle, after)
        | _ => none

def breakAtLastClose (text : List Char) : Option (List Char × List Char) :=
  let tail := text.reverse.takeWhile (· != ')')
  match text.reverse.drop tail.length with
  | _ :: before => some (before.reverse, tail.reverse)
  | [] => none

/-- A needle that may hold closing parentheses: in quotes up to the quote, without quotes up to
the last closing parenthesis before any quote. -/
def readLong (text : List Char) : Option (List Char × List Char) :=
  let allowed := fun (letter : Char) => !isQuote letter
  match text with
  | [] => none
  | first :: rest =>
      if isQuote first then readInQuotes allowed first rest
      else
        let span := text.takeWhile allowed
        (breakAtLastClose span).map fun found =>
          (found.1, found.2 ++ text.drop span.length)

def splitFilter (mark : String) (read : List Char → Option (List Char × List Char))
    (selector : String) : Option Filter :=
  (firstAfterStart mark.toList read selector.toList).map fun found =>
    ⟨String.ofList found.1, String.ofList found.2.1, String.ofList found.2.2⟩

def splitContains (selector : String) : Option Filter :=
  splitFilter ":contains(" readShort selector

/-- The `:contains(...)` of a selector inside `:has(...)`. -/
def splitInnerContains (selector : String) : Option Filter :=
  splitFilter ":contains(" readLong selector

def splitText (selector : String) : Option Filter :=
  splitFilter ":text(" readLong selector

structure NthParts where
  base : String
  digits : List Nat
  after : String
deriving DecidableEq, Repr

def nthMark : List Char := ":nth-match(".toList

def readDigits (text : List Char) : Option (List Nat × List Char) :=
  let letters := text.takeWhile isDigit
  match text.drop letters.length with
  | ')' :: after =>
      if letters.isEmpty then none else some (letters.filterMap digit?, after)
  | _ => none

def splitNth (selector : String) : Option NthParts :=
  (firstAfterStart nthMark readDigits selector.toList).map fun found =>
    ⟨String.ofList found.1, found.2.1, String.ofList found.2.2⟩

def anyIndex : List Char → Option (Bool × List Nat)
  | [] => none
  | letter :: rest =>
      let here :=
        if nthMark.isPrefixOf (letter :: rest) then
          match (letter :: rest).drop nthMark.length with
          | '-' :: tail => (readDigits tail).map fun found => (true, found.1)
          | tail => (readDigits tail).map fun found => (false, found.1)
        else none
      match here with
      | some found => some found
      | none => anyIndex rest

end Walkthrough.Selector
