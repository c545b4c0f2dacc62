import Walkthrough.Text.Printable
/-!
The quoted form of a text: in single quotes unless it holds a single quote and no double one, with
a backslash before the quote and the backslash, and with escapes for characters that cannot be
shown.
-/

namespace Walkthrough.Text

def hexDigit (value : Nat) : Char :=
  if value < 10 then Char.ofNat (48 + value) else Char.ofNat (87 + value)

def hexDigits : Nat → Nat → List Char
  | 0, _ => []
  | width + 1, code => hexDigits width (code / 16) ++ [hexDigit (code % 16)]

def escaped (quote letter : Char) : List Char :=
  if letter = quote || letter = '\\' then ['\\', letter]
  else if letter = '\t' then ['\\', 't']
  else if letter = '\n' then ['\\', 'n']
  else if letter = '\r' then ['\\', 'r']
  else if isPrintable letter then [letter]
  else if letter.toNat < 0x100 then ['\\', 'x'] ++ hexDigits 2 letter.toNat
  else if letter.toNat < 0x10000 then ['\\', 'u'] ++ hexDigits 4 letter.toNat
  else ['\\', 'U'] ++ hexDigits 8 letter.toNat

def quoteFor (text : List Char) : Char :=
  if text.contains '\'' && !text.contains '"' then '"' else '\''

def quoted (text : String) : String :=
  let letters := text.toList
  let quote := quoteFor letters
  String.ofList (quote :: letters.flatMap (escaped quote) ++ [quote])

end Walkthrough.Text
