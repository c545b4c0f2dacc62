import Walkthrough.Decimal.Binary64
/-!
The decimal text of a double: the fewest digits that read back as the same number, and of those the
ones nearest to it. The digits stand positionally while the decimal point falls within sixteen
places of the first digit, and with an exponent of at least two digits otherwise.
-/

namespace Walkthrough.Decimal

/-- `digits * 10 ^ exponent`. -/
structure Scientific where
  digits : Nat
  exponent : Int
deriving DecidableEq, Repr

/-- The positive fraction `above / below`. -/
structure Ratio where
  above : Nat
  below : Nat

def Ratio.scaled (ratio : Ratio) (base : Nat) (exponent : Int) : Ratio :=
  if exponent ≥ 0 then ⟨ratio.above * Nat.pow base exponent.toNat, ratio.below⟩
  else ⟨ratio.above, ratio.below * Nat.pow base (-exponent).toNat⟩

def Ratio.lt (left right : Ratio) : Bool :=
  left.above * right.below < right.above * left.below

/-- The numbers that read back as one double: those between `low` and `high`, ends included or
not. -/
structure Interval where
  low : Ratio
  high : Ratio
  closed : Bool

def Interval.contains (interval : Interval) (point : Ratio) : Bool :=
  if interval.closed then !point.lt interval.low && !interval.high.lt point
  else interval.low.lt point && point.lt interval.high

def Dyadic.ratio (value : Dyadic) : Ratio :=
  Ratio.scaled ⟨value.significand, 1⟩ 2 value.exponent

def Dyadic.interval (value : Dyadic) : Interval :=
  let quarter := fun (count : Nat) => Ratio.scaled ⟨count, 1⟩ 2 (value.exponent - 2)
  let narrow := value.significand = 1 <<< 52 ∧ value.exponent > -1074
  { low := quarter (4 * value.significand - if narrow then 1 else 2)
    high := quarter (4 * value.significand + 2)
    closed := value.significand % 2 = 0 }

def Ratio.lift (ratio : Ratio) : Nat → Nat
  | 0 => 0
  | fuel + 1 =>
      if ratio.above ≥ ratio.below then 0
      else (Ratio.lift ⟨ratio.above * 10, ratio.below⟩ fuel) + 1

def Ratio.magnitude (ratio : Ratio) : Int :=
  if ratio.above ≥ ratio.below then (toString (ratio.above / ratio.below)).length - 1
  else -(Ratio.lift ratio 400 : Int)

/-- The neighbour on the grid of `count` digits that lies in the interval, the nearer of two. -/
def candidate (ratio : Ratio) (interval : Interval) (magnitude : Int) (count : Nat) :
    Option Scientific :=
  let spacing := magnitude - count + 1
  let scaled := ratio.scaled 10 (-spacing)
  let below := scaled.above / scaled.below
  let inside := fun (digits : Nat) => interval.contains (Ratio.scaled ⟨digits, 1⟩ 10 spacing)
  let twice := 2 * (scaled.above % scaled.below)
  let upwards := twice > scaled.below || (twice == scaled.below && below % 2 == 1)
  match inside below, inside (below + 1) with
  | true, true => some ⟨if upwards then below + 1 else below, spacing⟩
  | true, false => some ⟨below, spacing⟩
  | false, true => some ⟨below + 1, spacing⟩
  | false, false => none

def shortest (value : Dyadic) : Scientific :=
  let ratio := value.ratio
  let interval := value.interval
  let magnitude := ratio.magnitude
  ((List.range 17).findSome? fun count => candidate ratio interval magnitude (count + 1)).getD
    ⟨0, 0⟩

def dropTrailingZeros (digits : List Char) : List Char :=
  match (digits.reverse.dropWhile (· == '0')).reverse with
  | [] => ['0']
  | kept => kept

def zeros (count : Int) : List Char :=
  List.replicate count.toNat '0'

def exponentText (exponent : Int) : List Char :=
  let size := (toString exponent.natAbs).toList
  (if exponent < 0 then ['-'] else ['+']) ++ (if size.length < 2 then '0' :: size else size)

/-- `digits` are the significant digits, `point` the power of ten of the first one. -/
def layout (digits : List Char) (point : Int) : List Char :=
  let count : Int := digits.length
  if point < -4 || point ≥ 16 then
    (match digits with
      | [] => []
      | [only] => [only]
      | first :: rest => first :: '.' :: rest) ++ 'e' :: exponentText point
  else if point < 0 then '0' :: '.' :: zeros (-point - 1) ++ digits
  else if count ≤ point + 1 then digits ++ zeros (point + 1 - count) ++ ['.', '0']
  else digits.take (point + 1).toNat ++ '.' :: digits.drop (point + 1).toNat

def Dyadic.text (value : Dyadic) : String :=
  let sign := if value.negative then ['-'] else []
  if value.significand = 0 then String.ofList (sign ++ ['0', '.', '0'])
  else
    let found := shortest value
    let written := (toString found.digits).toList
    let point := found.exponent + written.length - 1
    String.ofList (sign ++ layout (dropTrailingZeros written) point)

def floatText (number : Float) : String :=
  match Binary64.ofFloat number with
  | .finite value => value.text
  | .infinite true => "-inf"
  | .infinite false => "inf"
  | .notANumber => "nan"

end Walkthrough.Decimal
