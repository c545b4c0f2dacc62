import Walkthrough.Validation
import Walkthrough.Decimal.Reader
import Walkthrough.Decimal.Binary64
/-!
Lenient reading of single values. A whole number may also come as a truth value, as a whole double
or as a text; a truth value also as zero, one or one of a few words.
-/

namespace Walkthrough.Validation

open Walkthrough.Decimal

def readText : Json → Except Defect String
  | .text content => .ok content
  | _ => .error .notText

def readChoice {α : Type} (choices : List String) (ofName? : String → Option α) :
    Json → Except Defect α
  | .text name =>
      match ofName? name with
      | some value => .ok value
      | none => .error (.notChoice choices)
  | _ => .error (.notChoice choices)

def isPlainDigit (letter : Char) : Bool :=
  '0' ≤ letter && letter ≤ '9'

/-- Leading zeros removed, the last one kept where no other digit follows. The text starts with a
digit. -/
def withoutLeadingZeros (letters : List Char) : Option (List Char) :=
  match letters with
  | '0' :: rest =>
      let zeros := rest.takeWhile fun letter => letter = '0' || letter = '_'
      match rest.drop zeros.length with
      | [] => some [(zeros.getLast?).getD '0']
      | '.' :: tail => some ((zeros.getLast?).getD '0' :: '.' :: tail)
      | next :: tail => if isPlainDigit next then some (next :: tail) else none
  | first :: _ => if isPlainDigit first then some letters else none
  | [] => none

def withoutZeroFraction (letters : List Char) : List Char :=
  let whole := letters.takeWhile (· != '.')
  match letters.drop whole.length with
  | '.' :: '0' :: fraction => if fraction.all (· = '0') then whole else letters
  | _ => letters

def hasDoubledUnderscore : List Char → Bool
  | '_' :: '_' :: _ => true
  | _ :: rest => hasDoubledUnderscore rest
  | [] => false

def withoutUnderscores (letters : List Char) : List Char :=
  if letters.head? = some '_' || letters.getLast? = some '_' || hasDoubledUnderscore letters then
    letters
  else letters.filter (· != '_')

def plainSpelling (unsigned : List Char) : Option (List Char) :=
  (withoutLeadingZeros unsigned).map fun stripped =>
    withoutUnderscores (withoutZeroFraction stripped)

/-- A row of digits that is too long, its minus sign counted, is refused as such whatever follows
it. -/
def readPlain (negative : Bool) (letters : List Char) : Except Defect Int :=
  let digits := letters.takeWhile isPlainDigit
  if digits.length + negative.toNat > digitLimit then .error .oversizedInteger
  else if digits.isEmpty || digits.length < letters.length then .error .unreadableInteger
  else .ok (signed negative (Text.ofDigits (digits.map fun digit => digit.toNat - 48)))

def integerOfText (content : String) : Except Defect Int :=
  let (negative, unsigned) := readSign (Text.withoutPadding content.toList)
  match plainSpelling unsigned with
  | some letters => readPlain negative letters
  | none => .error .unreadableInteger

/-- Above the size of every signed number of 64 bits but the least. -/
def wordBound : Nat := 1 <<< 63

def integerOfFloat (number : Float) : Except Defect Int :=
  match Binary64.ofFloat number with
  | .finite value =>
      if !value.isWhole then .error .fractional
      else if value.truncated.natAbs < wordBound then .ok value.truncated
      else .error .oversizedInteger
  | _ => .error .notFinite

def readInteger : Json → Except Defect Int
  | .int number => .ok number
  | .bool truth => .ok (if truth then 1 else 0)
  | .float number => integerOfFloat number
  | .text content => integerOfText content
  | _ => .error .notInteger

def readNatural (value : Json) : Except Defect Nat :=
  match readInteger value with
  | .ok (.ofNat number) => .ok number
  | .ok _ => .error .negative
  | .error defect => .error defect

def trueWords : List String := ["1", "on", "t", "true", "y", "yes"]
def falseWords : List String := ["0", "off", "f", "false", "n", "no"]

def truthOfInteger : Int → Except Defect Bool
  | 0 => .ok false
  | 1 => .ok true
  | _ => .error .unreadableTruth

def readTruth : Json → Except Defect Bool
  | .bool truth => .ok truth
  | .int number =>
      if number.natAbs < wordBound then truthOfInteger number else .error .notTruth
  | .float number =>
      match integerOfFloat number with
      | .ok whole => truthOfInteger whole
      | .error _ => .error .notTruth
  | .text content =>
      let word := String.ofList (content.toList.map Char.toLower)
      if trueWords.contains word then .ok true
      else if falseWords.contains word then .ok false
      else .error .unreadableTruth
  | _ => .error .notTruth

end Walkthrough.Validation
