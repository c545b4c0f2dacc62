import Walkthrough.Text.Pieces
import Walkthrough.Decimal.Reader
import Walkthrough.Fault
/-!
Versions as three numbers. Leading letters `v` are passed over, missing parts count as zero, and
whatever follows the digits of a part is ignored.
-/

namespace Walkthrough

structure Version where
  major : Nat
  minor : Nat
  patch : Nat
deriving DecidableEq, Repr

namespace Version

open Text

def part (piece : List Char) : Except Misuse Nat :=
  let digits := (piece.takeWhile isDigit).filterMap digit?
  if digits.length > Decimal.digitLimit then .error (.tooManyDigits digits.length)
  else .ok (ofDigits digits)

/-- The parts in order; the first one that is too long is refused. -/
def parts : List (List Char) → Except Misuse (List Nat)
  | [] => .ok []
  | piece :: rest => do
      let number ← part piece
      return number :: (← parts rest)

def withoutMark (text : List Char) : List Char :=
  text.dropWhile fun letter => letter = 'v' || letter = 'V'

def parse (text : String) : Except Misuse Version := do
  let numbers ← parts ((cut (· == '.') (withoutMark (trimChars text.toList))).take 3)
  return ⟨numbers.getD 0 0, numbers.getD 1 0, numbers.getD 2 0⟩

def atLeast (current required : Version) : Bool :=
  current.major > required.major
    || (current.major == required.major
      && (current.minor > required.minor
        || (current.minor == required.minor && current.patch ≥ required.patch)))

end Version

end Walkthrough
