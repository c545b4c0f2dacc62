import Walkthrough.Json.Reader
import Walkthrough.Text.Quoted
/-!
Percent signs followed by two hexadecimal digits stand for bytes. Bytes that are no text are read
as replacement characters.
-/

namespace Walkthrough.Url

/-! Writing. -/

def upperHexDigits (code : Nat) : List Char :=
  (Text.hexDigits 2 code).map Char.toUpper

def textBytes (text : List Char) : List Nat :=
  (String.ofList text).toUTF8.toList.map UInt8.toNat

def escapeLetter (letter : Char) : List Char :=
  (textBytes [letter]).flatMap fun byte => '%' :: upperHexDigits byte

def escapeUnless (keeps : Char → Bool) (text : List Char) : List Char :=
  text.flatMap fun letter => if keeps letter then [letter] else escapeLetter letter

/-! Reading. -/

def percentBytes : List Char → List Nat
  | [] => []
  | '%' :: high :: low :: rest =>
      match Json.hexValue? high, Json.hexValue? low with
      | some first, some second => (first * 16 + second) :: percentBytes rest
      | _, _ => 37 :: percentBytes (high :: low :: rest)
  | letter :: rest =>
      textBytes [letter] ++ percentBytes rest

/-- How many bytes follow a first one, its own bits, and the bounds for the second byte. -/
def leadOf? (byte : Nat) : Option (Nat × Nat × Nat × Nat) :=
  if 0xC2 ≤ byte && byte ≤ 0xDF then some (1, byte - 0xC0, 0x80, 0xBF)
  else if 0xE0 ≤ byte && byte ≤ 0xEF then
    some (2, byte - 0xE0, if byte = 0xE0 then 0xA0 else 0x80, if byte = 0xED then 0x9F else 0xBF)
  else if 0xF0 ≤ byte && byte ≤ 0xF4 then
    some (3, byte - 0xF0, if byte = 0xF0 then 0x90 else 0x80, if byte = 0xF4 then 0x8F else 0xBF)
  else none

def replacement : Char := Char.ofNat 0xFFFD

/-- The characters that bytes stand for; `open` is a character begun but not finished: the bytes
missing, its bits so far, and the bounds for the next byte. -/
def decodeFrom (pending : Option (Nat × Nat × Nat × Nat)) : List Nat → List Char
  | [] => if pending.isSome then [replacement] else []
  | byte :: rest =>
      let start := fun (broken : List Char) =>
        if byte < 128 then broken ++ Char.ofNat byte :: decodeFrom none rest
        else match leadOf? byte with
          | some lead => broken ++ decodeFrom (some lead) rest
          | none => broken ++ replacement :: decodeFrom none rest
      match pending with
      | none => start []
      | some (missing, bits, low, high) =>
          if low ≤ byte && byte ≤ high then
            let joined := bits * 64 + (byte - 128)
            if missing ≤ 1 then Char.ofNat joined :: decodeFrom none rest
            else decodeFrom (some (missing - 1, joined, 0x80, 0xBF)) rest
          else start [replacement]

def decodePercent (text : List Char) : List Char :=
  decodeFrom none (percentBytes text)

end Walkthrough.Url
