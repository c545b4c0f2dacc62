/-!
What a double-precision number is: a sign and a significand times a power of two.
-/

namespace Walkthrough.Decimal

/-- The finite number `± significand * 2 ^ exponent`. -/
structure Dyadic where
  negative : Bool
  significand : Nat
  exponent : Int
deriving DecidableEq, Repr

inductive Binary64 where
  | finite (value : Dyadic)
  | infinite (negative : Bool)
  | notANumber
deriving DecidableEq, Repr

def Binary64.ofBits (bits : UInt64) : Binary64 :=
  let negative := bits.toNat >>> 63 == 1
  let biased : Nat := (bits.toNat >>> 52) % 2048
  let fraction := bits.toNat % (1 <<< 52)
  if biased = 2047 then if fraction = 0 then .infinite negative else .notANumber
  else if biased = 0 then .finite ⟨negative, fraction, -1074⟩
  else .finite ⟨negative, (1 <<< 52) + fraction, (biased : Int) - 1075⟩

def Binary64.ofFloat (number : Float) : Binary64 :=
  Binary64.ofBits number.toBits

def Dyadic.truncated (value : Dyadic) : Int :=
  let size : Nat :=
    if value.exponent ≥ 0 then value.significand <<< value.exponent.toNat
    else value.significand >>> (-value.exponent).toNat
  if value.negative then -(size : Int) else size

def Dyadic.isWhole (value : Dyadic) : Bool :=
  value.exponent ≥ 0 || value.significand % (1 <<< (-value.exponent).toNat) == 0

end Walkthrough.Decimal
