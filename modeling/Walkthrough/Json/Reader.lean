import Walkthrough.Json
import Walkthrough.Decimal.Reader
/-!
Reading a JSON text. `NaN` and the infinities are read as numbers, a name given twice keeps its
first place and its last value, and a refusal names the position at which reading stopped.
-/

namespace Walkthrough.Json

open Walkthrough.Decimal

inductive Defect where
  | value
  | name
  | colon
  | comma
  | openText
  | control
  | escape
  | codeEscape
  | trailing
  | byteOrderMark
deriving DecidableEq, Repr

def Defect.words : Defect → String
  | .value => "Expecting value"
  | .name => "Expecting property name enclosed in double quotes"
  | .colon => "Expecting ':' delimiter"
  | .comma => "Expecting ',' delimiter"
  | .openText => "Unterminated string starting at"
  | .control => "Invalid control character at"
  | .escape => "Invalid \\escape"
  | .codeEscape => "Invalid \\uXXXX escape"
  | .trailing => "Extra data"
  | .byteOrderMark => "Unexpected UTF-8 BOM (decode using utf-8-sig)"

inductive Failure where
  | defect (defect : Defect) (unread : Nat)
  | tooLong (digits : Nat)

def stop {α : Type} (defect : Defect) (rest : List Char) : Except Failure α :=
  .error (.defect defect rest.length)

def isSpace (letter : Char) : Bool :=
  letter = ' ' || letter = '\t' || letter = '\n' || letter = '\r'

def skipSpace (letters : List Char) : List Char :=
  letters.dropWhile isSpace

def hexValue? (letter : Char) : Option Nat :=
  let code := letter.toNat
  if 48 ≤ code && code ≤ 57 then some (code - 48)
  else if 97 ≤ code && code ≤ 102 then some (code - 87)
  else if 65 ≤ code && code ≤ 70 then some (code - 55)
  else none

def codeUnit? : List Char → Option Nat
  | [first, second, third, fourth] =>
      [first, second, third, fourth].foldl
        (fun total letter => do return (← total) * 16 + (← hexValue? letter)) (some 0)
  | _ => none

def isHighSurrogate (unit : Nat) : Bool := 0xD800 ≤ unit && unit < 0xDC00
def isLowSurrogate (unit : Nat) : Bool := 0xDC00 ≤ unit && unit < 0xE000

/-- A code unit that is half of a pair on its own is replaced. -/
def ofUnit (unit : Nat) : Char :=
  if isHighSurrogate unit || isLowSurrogate unit then Char.ofNat 0xFFFD else Char.ofNat unit

def ofPair (high low : Nat) : Char :=
  Char.ofNat (0x10000 + (high - 0xD800) * 0x400 + (low - 0xDC00))

/-- A second half after `\u`, if one follows; the text has to go on behind it. -/
def lowHalf? (letters : List Char) : Option (Nat × List Char) :=
  match letters with
  | '\\' :: 'u' :: tail =>
      match codeUnit? (tail.take 4) with
      | some unit =>
          if isLowSurrogate unit && (tail.drop 4).length > 0 then some (unit, tail.drop 4) else none
      | none => none
  | _ => none

def simpleEscape? (letter : Char) : Option Char :=
  if letter = '"' then some '"'
  else if letter = '\\' then some '\\'
  else if letter = '/' then some '/'
  else if letter = 'b' then some '\x08'
  else if letter = 'f' then some '\x0c'
  else if letter = 'n' then some '\n'
  else if letter = 'r' then some '\r'
  else if letter = 't' then some '\t'
  else none

/-- The rest of a quoted text after its opening quote; `opening` counts the characters from that
quote on. -/
def readText (opening : Nat) : Nat → List Char → Except Failure (List Char × List Char)
  | 0, _ => .error (.defect .openText opening)
  | fuel + 1, letters =>
      match letters with
      | [] => .error (.defect .openText opening)
      | letter :: rest =>
          if letter = '"' then .ok ([], rest)
          else if letter = '\\' then
            match rest with
            | [] => .error (.defect .openText opening)
            | mark :: tail =>
                if mark = 'u' then
                  match if tail.length ≤ 4 then none else codeUnit? (tail.take 4) with
                  | none => .error (.defect .codeEscape (tail.length + 1))
                  | some unit =>
                      match if isHighSurrogate unit then lowHalf? (tail.drop 4) else none with
                      | some (low, after) => do
                          let (found, last) ← readText opening fuel after
                          return (ofPair unit low :: found, last)
                      | none => do
                          let (found, last) ← readText opening fuel (tail.drop 4)
                          return (ofUnit unit :: found, last)
                else match simpleEscape? mark with
                  | none => .error (.defect .escape letters.length)
                  | some plain => do
                      let (found, last) ← readText opening fuel tail
                      return (plain :: found, last)
          else if letter.toNat < 32 then .error (.defect .control letters.length)
          else do
            let (found, last) ← readText opening fuel rest
            return (letter :: found, last)

def isAsciiDigit (letter : Char) : Bool :=
  '0' ≤ letter && letter ≤ '9'

def digitValues (letters : List Char) : List Nat :=
  letters.map fun letter => letter.toNat - 48

def readNumber (letters : List Char) : Option (Except Nat Json × List Char) :=
  let (negative, body) := match letters with
    | '-' :: rest => (true, rest)
    | _ => (false, letters)
  let whole := match body with
    | '0' :: _ => ['0']
    | _ => body.takeWhile isAsciiDigit
  if whole.isEmpty then none
  else
    let afterWhole := body.drop whole.length
    let (fraction, afterFraction) := match afterWhole with
      | '.' :: tail =>
          let digits := tail.takeWhile isAsciiDigit
          if digits.isEmpty then ([], afterWhole) else (digits, tail.drop digits.length)
      | _ => ([], afterWhole)
    let power : Option (Int × List Char) := match afterFraction with
      | mark :: tail =>
          if mark = 'e' || mark = 'E' then
            let (below, body) := readSign tail
            let digits := body.takeWhile isAsciiDigit
            if digits.isEmpty then none
            else some (signed below (Text.ofDigits (digitValues digits)), body.drop digits.length)
          else none
      | [] => none
    match fraction, power with
    | [], none =>
        some (if whole.length > digitLimit then .error whole.length
          else .ok (.int (signed negative (Text.ofDigits (digitValues whole)))), afterFraction)
    | _, _ =>
        let exponent := (power.map Prod.fst).getD 0
        let rest := (power.map Prod.snd).getD afterFraction
        some (.ok (.float (roundScientific negative (digitValues (whole ++ fraction))
          (exponent - fraction.length))), rest)

def word? (letters : List Char) : Option (Json × List Char) :=
  let read := fun (word : String) (value : Json) =>
    if word.toList.isPrefixOf letters then some (value, letters.drop word.length) else none
  read "null" .null <|> read "true" (.bool true) <|> read "false" (.bool false)
    <|> read "NaN" (.float (0.0 / 0.0)) <|> read "Infinity" (.float (1.0 / 0.0))
    <|> read "-Infinity" (.float (-(1.0 / 0.0)))

mutual

def readValue : Nat → List Char → Except Failure (Json × List Char)
  | 0, letters => stop .value letters
  | fuel + 1, letters =>
      match letters with
      | [] => stop .value letters
      | letter :: rest =>
          if letter = '"' then do
            let (found, last) ← readText letters.length (rest.length + 1) rest
            return (.text (String.ofList found), last)
          else if letter = '\x7b' then
            match skipSpace rest with
            | '\x7d' :: tail => return (.object [], tail)
            | body => do
                let (fields, last) ← readFields fuel [] body
                return (.object fields, last)
          else if letter = '[' then
            match skipSpace rest with
            | ']' :: tail => return (.list [], tail)
            | body => do
                let (items, last) ← readItems fuel body
                return (.list items, last)
          else match word? letters with
            | some found => .ok found
            | none =>
                match readNumber letters with
                | some (.ok number, last) => .ok (number, last)
                | some (.error digits, _) => .error (.tooLong digits)
                | none => stop .value letters

def readItems : Nat → List Char → Except Failure (List Json × List Char)
  | 0, letters => stop .value letters
  | fuel + 1, letters => do
      let (item, afterItem) ← readValue fuel letters
      match skipSpace afterItem with
      | ']' :: tail => return ([item], tail)
      | ',' :: tail =>
          let (items, last) ← readItems fuel (skipSpace tail)
          return (item :: items, last)
      | rest => stop .comma rest

def readFields : Nat → List (String × Json) → List Char →
    Except Failure (List (String × Json) × List Char)
  | 0, _, letters => stop .name letters
  | fuel + 1, known, letters =>
      match letters with
      | '"' :: rest => do
          let (name, afterName) ← readText letters.length (rest.length + 1) rest
          match skipSpace afterName with
          | ':' :: tail =>
              let (value, afterValue) ← readValue fuel (skipSpace tail)
              let fields := Fields.assign known (String.ofList name) value
              match skipSpace afterValue with
              | '\x7d' :: tail => return (fields, tail)
              | ',' :: tail => readFields fuel fields (skipSpace tail)
              | rest => stop .comma rest
          | rest => stop .colon rest
      | rest => stop .name rest

end

def lineAndColumn (letters : List Char) (position : Nat) : Nat × Nat :=
  let before := letters.take position
  (before.count '\n' + 1, (before.reverse.takeWhile (· != '\n')).length + 1)

structure Refusal where
  defect : Defect
  line : Nat
  column : Nat
  position : Nat
deriving DecidableEq, Repr

def Refusal.message (refusal : Refusal) : String :=
  s!"{refusal.defect.words}: line {refusal.line} column {refusal.column} (char {refusal.position})"

inductive ReadError where
  | refused (refusal : Refusal)
  | tooLong (digits : Nat)

def refusal (letters : List Char) (defect : Defect) (unread : Nat) : Refusal :=
  let position := letters.length - unread
  let (line, column) := lineAndColumn letters position
  ⟨defect, line, column, position⟩

def readChars (letters : List Char) : Except ReadError Json :=
  let outcome : Except Failure Json := do
    let (value, last) ← readValue (2 * letters.length + 2) (skipSpace letters)
    match skipSpace last with
    | [] => return value
    | rest => stop .trailing rest
  match outcome with
  | .ok value => .ok value
  | .error (.defect defect unread) => .error (.refused (refusal letters defect unread))
  | .error (.tooLong digits) => .error (.tooLong digits)

def read (letters : String) : Except ReadError Json :=
  readChars letters.toList

end Walkthrough.Json
