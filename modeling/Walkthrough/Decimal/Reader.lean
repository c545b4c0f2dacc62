import Walkthrough.Text.Blank
import Walkthrough.Text.Digit
import Walkthrough.Text.Lowercase
/-!
Reading numbers from text. White space around the number is ignored, digits of any script count,
and single underscores may stand between digits.
-/

namespace Walkthrough.Decimal

open Walkthrough.Text

inductive IntegerDefect where
  | malformed
  | tooLong (digits : Nat)
deriving DecidableEq, Repr

/-- Longer rows of digits are neither read nor written. -/
def digitLimit : Nat := 4300

def isOverlong (number : Int) : Bool :=
  Nat.pow 10 digitLimit ≤ number.natAbs

theorem isOverlong_of_small {number : Int} (small : number.natAbs ≤ digitLimit) :
    isOverlong number = false := by
  unfold isOverlong
  generalize digitLimit = limit at small ⊢
  have below : number.natAbs < 10 ^ limit :=
    Nat.lt_of_le_of_lt small (Nat.lt_pow_self (by decide))
  exact decide_eq_false (Nat.not_le.2 below)

/-- The digits at the start, single underscores between them skipped, and what follows. -/
def digitRun (afterDigit : Bool) : List Char → List Nat × List Char
  | [] => ([], [])
  | letter :: rest =>
      match digit? letter with
      | some value =>
          let found := digitRun true rest
          (value :: found.1, found.2)
      | none =>
          if afterDigit && letter == '_' && rest.head?.any isDigit then digitRun false rest
          else ([], letter :: rest)

def leadingDigits (text : List Char) : List Nat × List Char :=
  digitRun false text

def readSign : List Char → Bool × List Char
  | '-' :: rest => (true, rest)
  | '+' :: rest => (false, rest)
  | text => (false, text)

def signed (negative : Bool) (size : Nat) : Int :=
  if negative then -(size : Int) else size

/-- A row of digits that is too long is refused as such whatever follows it. -/
def readInteger (text : String) : Except IntegerDefect Int :=
  let (negative, body) := readSign (withoutPadding text.toList)
  match leadingDigits body with
  | ([], _) => .error .malformed
  | (_, '_' :: _) => .error .malformed
  | (digits, rest) =>
      if digits.length > digitLimit then .error (.tooLong digits.length)
      else if rest.isEmpty then .ok (signed negative (ofDigits digits))
      else .error .malformed

def roundScientific (negative : Bool) (digits : List Nat) (exponent : Int) : Float :=
  let significant := digits.dropWhile (· == 0)
  let point := exponent + significant.length
  let size : Float :=
    if significant.isEmpty || point < -400 then 0
    else if point > 400 then 1.0 / 0.0
    else Float.ofScientific (ofDigits significant) (exponent < 0) exponent.natAbs
  if negative then -size else size

def roundInteger (number : Int) : Float :=
  let size := Float.ofScientific number.natAbs false 0
  if number < 0 then -size else size

def readExponent (text : List Char) : Option (Int × List Char) :=
  match text with
  | mark :: rest =>
      if mark = 'e' || mark = 'E' then
        let (negative, body) := readSign rest
        match leadingDigits body with
        | ([], _) => none
        | (digits, tail) => some (signed negative (ofDigits digits), tail)
      else none
  | [] => none

def readUnsigned (negative : Bool) (body : List Char) : Option Float :=
  let (whole, afterWhole) := leadingDigits body
  let (fraction, rest) := match afterWhole with
    | '.' :: tail => leadingDigits tail
    | _ => ([], afterWhole)
  if whole.isEmpty && fraction.isEmpty then none
  else
    let places : Int := fraction.length
    match rest with
    | [] => some (roundScientific negative (whole ++ fraction) (-places))
    | _ =>
        match readExponent rest with
        | some (exponent, []) =>
            some (roundScientific negative (whole ++ fraction) (exponent - places))
        | _ => none

def readFloat (text : String) : Option Float :=
  let (negative, body) := readSign (withoutPadding text.toList)
  let word := String.ofList (body.map Char.toLower)
  if word = "inf" || word = "infinity" then
    some (if negative then -(1.0 / 0.0) else 1.0 / 0.0)
  else if word = "nan" then some (0.0 / 0.0)
  else readUnsigned negative body

end Walkthrough.Decimal
