import Walkthrough.Text.CaseTable
import Walkthrough.Text.Pieces
/-!
Lower-casing by the full Unicode mapping. Two characters need more than a table of pairs: the
dotted capital I gives two characters, and a capital sigma is written as a final sigma where a
word ends.
-/

namespace Walkthrough.Text

def isCased (letter : Char) : Bool :=
  inSpans casedSpans letter.toNat

def isIgnorable (letter : Char) : Bool :=
  inSpans ignorableSpans letter.toNat

def facesCased (nearestFirst : List Char) : Bool :=
  match nearestFirst.dropWhile isIgnorable with
  | [] => false
  | letter :: _ => isCased letter

def lowerSimple (letter : Char) : Char :=
  match caseRuns.findSome? fun run => run.lower? letter.toNat with
  | some code => Char.ofNat code
  | none => letter

/-- The lower-case form of one letter between what precedes it, nearest first, and what follows. -/
def lowerBetween (before : List Char) (letter : Char) (after : List Char) : List Char :=
  if letter.toNat < 128 then [letter.toLower]
  else if letter = 'Σ' then
    if facesCased before && !facesCased after then ['ς'] else ['σ']
  else if letter = 'İ' then ['i', Char.ofNat 775]
  else [lowerSimple letter]

def lowerFrom (before : List Char) : List Char → List Char
  | [] => []
  | letter :: after => lowerBetween before letter after ++ lowerFrom (letter :: before) after

def lowerChars (text : List Char) : List Char :=
  lowerFrom [] text

def lower (text : String) : String :=
  String.ofList (lowerChars text.toList)

def includesFolded (pattern text : String) : Bool :=
  includes (lower pattern) (lower text)

end Walkthrough.Text
