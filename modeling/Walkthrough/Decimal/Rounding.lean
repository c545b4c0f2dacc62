import Walkthrough.Decimal.Binary64
/-!
Rounding a double to a whole number. A number half-way between two goes to the even one.
-/

namespace Walkthrough.Decimal

/-- The quotient rounded to the nearest whole number, or to the even one of two. -/
def roundedQuotient (dividend divisor : Nat) : Nat :=
  let below := dividend / divisor
  let twice := 2 * (dividend % divisor)
  if twice > divisor || (twice == divisor && below % 2 == 1) then below + 1 else below

def Dyadic.rounded (value : Dyadic) : Int :=
  let size : Nat :=
    if value.exponent ≥ 0 then value.significand <<< value.exponent.toNat
    else roundedQuotient value.significand (1 <<< (-value.exponent).toNat)
  if value.negative then -(size : Int) else size

def roundToEven (number : Float) : Option Int :=
  match Binary64.ofFloat number with
  | .finite value => some value.rounded
  | _ => none

end Walkthrough.Decimal
