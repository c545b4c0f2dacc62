import Walkthrough.Setting
/-!
Numbers, truth values and moments in a settings file. Each reader takes the longest piece that it
can from the front of a text.
-/

namespace Walkthrough.Table

open Decimal

inductive Defect where
  | malformed
  | tooLong (digits : Nat)
deriving DecidableEq, Repr

/-! Numbers. -/

def digitRun (isDigit : Char → Bool) (afterDigit : Bool) : List Char → List Char × List Char
  | [] => ([], [])
  | letter :: rest =>
      if isDigit letter then
        let found := digitRun isDigit true rest
        (letter :: found.1, found.2)
      else if afterDigit && letter = '_' && rest.head?.any isDigit then
        digitRun isDigit false rest
      else ([], letter :: rest)

def decimalRun (text : List Char) : List Char × List Char :=
  digitRun Json.isAsciiDigit false text

def radixOf? (mark : Char) : Option Nat :=
  if mark = 'x' then some 16 else if mark = 'o' then some 8 else if mark = 'b' then some 2
  else none

def readRadix? (text : List Char) : Option (Nat × List Char) :=
  match text with
  | '0' :: mark :: body => do
      let radix ← radixOf? mark
      let isDigit := fun letter => (Json.hexValue? letter).any (· < radix)
      let (digits, rest) := digitRun isDigit false body
      if digits.isEmpty then none
      else
        let values ← digits.mapM Json.hexValue?
        return (values.foldl (fun total value => total * radix + value) 0, rest)
  | _ => none

/-- A whole number in base ten has no zeros in front. -/
def wholeRun (text : List Char) : List Char × List Char :=
  match text with
  | '0' :: rest => (['0'], rest)
  | _ => decimalRun text

def fractionRun (text : List Char) : List Char × List Char :=
  match text with
  | '.' :: body =>
      let found := decimalRun body
      if found.1.isEmpty then ([], text) else found
  | _ => ([], text)

def readPower? (text : List Char) : Option (Int × List Char) :=
  match text with
  | mark :: body =>
      if mark = 'e' || mark = 'E' then
        let (negative, digits) := readSign body
        let found := decimalRun digits
        if found.1.isEmpty then none
        else some (signed negative (Text.ofDigits (Json.digitValues found.1)), found.2)
      else none
  | [] => none

/-- Without a fraction and an exponent a number is whole. -/
def readDecimal? (text : List Char) : Option (Except Defect Json × List Char) :=
  let (negative, body) := readSign text
  let (whole, afterWhole) := wholeRun body
  if whole.isEmpty then none
  else
    let (fraction, afterFraction) := fractionRun afterWhole
    let power := readPower? afterFraction
    let rest := (power.map Prod.snd).getD afterFraction
    if fraction.isEmpty && power.isNone then
      some (if whole.length > digitLimit then .error (.tooLong whole.length)
        else .ok (.int (signed negative (Text.ofDigits (Json.digitValues whole)))), rest)
    else
      let exponent := (power.map Prod.fst).getD 0
      some (.ok (.float (roundScientific negative (Json.digitValues (whole ++ fraction))
        (exponent - fraction.length))), rest)

def infinity : Float := 1.0 / 0.0

def words : List (String × Json) :=
  [("true", .bool true), ("false", .bool false), ("inf", .float infinity),
   ("+inf", .float infinity), ("-inf", .float (-infinity)), ("nan", .float (0.0 / 0.0)),
   ("+nan", .float (0.0 / 0.0)), ("-nan", .float (0.0 / 0.0))]

def readWord? (text : List Char) : Option (Json × List Char) :=
  words.findSome? fun word =>
    if word.1.toList.isPrefixOf text then some (word.2, text.drop word.1.length) else none

/-! Moments. -/

def readWidth? (width : Nat) (text : List Char) : Option (Nat × List Char) :=
  let digits := text.take width
  if digits.length = width && digits.all Json.isAsciiDigit then
    some (Text.ofDigits (Json.digitValues digits), text.drop width)
  else none

def readPair? (low high : Nat) (text : List Char) : Option (Nat × List Char) := do
  let (number, rest) ← readWidth? 2 text
  if low ≤ number && number ≤ high then some (number, rest) else none

def readMark? (mark : Char) (text : List Char) : Option (List Char) :=
  match text with
  | letter :: rest => if letter = mark then some rest else none
  | [] => none

/-- A day as written, which the calendar need not have. -/
def readDay? (text : List Char) : Option (Day × List Char) := do
  let (year, afterYear) ← readWidth? 4 text
  let (month, afterMonth) ← readPair? 1 12 (← readMark? '-' afterYear)
  let (day, rest) ← readPair? 1 31 (← readMark? '-' afterMonth)
  return (⟨year, month, day⟩, rest)

/-- Of a fraction of a second six digits count. -/
def readMicroseconds (text : List Char) : Nat × List Char :=
  match text with
  | '.' :: body =>
      let digits := body.takeWhile Json.isAsciiDigit
      if digits.isEmpty then (0, text)
      else
        let counted := digits.take 6 ++ List.replicate (6 - digits.length) '0'
        (Text.ofDigits (Json.digitValues counted), body.drop digits.length)
  | _ => (0, text)

def readClock? (text : List Char) : Option (Clock × List Char) := do
  let (hour, afterHour) ← readPair? 0 23 text
  let (minute, afterMinute) ← readPair? 0 59 (← readMark? ':' afterHour)
  let (second, afterSecond) ← readPair? 0 59 (← readMark? ':' afterMinute)
  let (microsecond, rest) := readMicroseconds afterSecond
  return (⟨hour, minute, second, microsecond⟩, rest)

def readAhead? (text : List Char) : Option (Int × List Char) :=
  match text with
  | mark :: rest =>
      if mark = 'Z' || mark = 'z' then some (0, rest)
      else if mark = '+' || mark = '-' then do
        let (hours, afterHours) ← readPair? 0 23 rest
        let (minutes, last) ← readPair? 0 59 (← readMark? ':' afterHours)
        return (signed (mark = '-') (hours * 60 + minutes), last)
      else none
  | [] => none

def readDayTime? (text : List Char) : Option ((Clock × Option Int) × List Char) := do
  let mark ← text.head?
  if mark = 'T' || mark = 't' || mark = ' ' then
    let (clock, rest) ← readClock? (text.drop 1)
    match readAhead? rest with
    | some (minutes, last) => return ((clock, some minutes), last)
    | none => return ((clock, none), rest)
  else none

def readMoment? (text : List Char) : Option (Except Defect Moment × List Char) :=
  match readDay? text with
  | some (day, rest) =>
      let (moment, last) := match readDayTime? rest with
        | some ((clock, ahead), last) => (Moment.both day clock ahead, last)
        | none => (.date day, rest)
      some (if day.isReal then .ok moment else .error .malformed, last)
  | none => (readClock? text).map fun found => (.ok (.time found.1), found.2)

/-! Any of these. -/

def readScalar (text : List Char) : Except Defect (Setting × List Char) :=
  match readMoment? text with
  | some (outcome, rest) => outcome.map fun moment => (.moment moment, rest)
  | none =>
      match readRadix? text with
      | some (number, rest) => .ok (.value (.int number), rest)
      | none =>
          match readDecimal? text with
          | some (outcome, rest) => outcome.map fun number => (.value number, rest)
          | none =>
              match readWord? text with
              | some (word, rest) => .ok (.value word, rest)
              | none => .error .malformed

end Walkthrough.Table
