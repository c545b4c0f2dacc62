import Walkthrough.Fault
import Walkthrough.Decimal.Rounding
/-!
Amounts as they are given: a whole number, a real one, or something that is no number at all, which
shows only once the amount is used.
-/

namespace Walkthrough

inductive Amount where
  | whole (number : Int)
  | real (number : Float)
  | unusable (kind : String)
deriving DecidableEq, Repr

namespace Amount

open Decimal

/-- Truth values count as one and zero. -/
def ofJson : Json → Amount
  | .int number => whole number
  | .bool truth => whole (if truth then 1 else 0)
  | .float number => real number
  | value => unusable value.kindName

def isPositive : Amount → Except Misuse Bool
  | whole number => .ok (number > 0)
  | real number => .ok (number > 0)
  | unusable kind => .error (.unordered ">" kind "int")

def exceeds (count : Nat) : Amount → Except Misuse Bool
  | whole number => .ok ((count : Int) < number)
  | real number => .ok (Float.ofNat count < number)
  | unusable kind => .error (.unordered "<" "int" kind)

def isReachedBy (count : Nat) : Amount → Except Misuse Bool
  | whole number => .ok (number ≤ (count : Int))
  | real number => .ok (number ≤ Float.ofNat count)
  | unusable kind => .error (.unordered ">=" "int" kind)

def thousandth : Amount → Except Misuse Float
  | whole number =>
      let size := Float.ofScientific number.natAbs true 3
      if size.isInf then .error .oversizedQuotient
      else .ok (if number < 0 then -size else size)
  | real number => .ok (number / 1000)
  | unusable kind => .error (.undividable kind)

/-- Milliseconds as a pause knows them: its length in seconds, told in whole milliseconds. -/
def milliseconds (amount : Amount) : Except Misuse Int := do
  match roundToEven ((← amount.thousandth) * 1000) with
  | some rounded => return rounded
  | none => throw .infiniteInteger

def ceiling : Amount → Nat
  | whole number => number.toNat
  | real number => ((roundToEven number).getD 0).toNat + 1
  | unusable _ => 0

def timesAtLeast (factor least : Int) : Amount → Json
  | whole number => .int (max (number * factor) least)
  | real number =>
      let product := number * Float.ofInt factor
      if Float.ofInt least > product then .int least else .float product
  | unusable _ => .int least

end Amount

end Walkthrough
