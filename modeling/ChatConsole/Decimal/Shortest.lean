import ChatConsole.Decimal.Binary

/-! # Shortest decimals

Among the decimals that round back to a given double, `shortest` gives one with the fewest digits,
and of those the nearest. For one digit, two digits and so on it looks at the two neighbours of the
value on that decimal grid; the first grid with a neighbour inside the rounding interval wins.
-/

namespace ChatConsole.Decimal

/-- The decimal `coefficient * 10 ^ exponent`. -/
structure Scaled where
  coefficient : Nat
  exponent : Int
  deriving DecidableEq, Repr

/-- The numbers that round to a value, as quarters of its last binary place. -/
structure Interval where
  lower : Nat
  upper : Nat
  /-- Whether the two ends belong to it. -/
  closed : Bool
  /-- The power of two of one quarter. -/
  exponent : Int

/-- The rounding interval of a positive double. The gap below a power of two is half as wide. -/
def Interval.of (x : Binary) : Interval where
  lower := 4 * x.mantissa -
    if x.mantissa = Nat.pow 2 (double.precision - 1) ∧ double.minExponent < x.exponent then 1 else 2
  upper := 4 * x.mantissa + 2
  closed := x.mantissa % 2 == 0
  exponent := x.exponent - 2

/-- Whether the decimal lies in the interval. -/
def Interval.holds (i : Interval) (d : Scaled) : Bool :=
  let value := d.coefficient * Nat.pow 10 d.exponent.toNat * Nat.pow 2 (-i.exponent).toNat
  let unit := Nat.pow 10 (-d.exponent).toNat * Nat.pow 2 i.exponent.toNat
  if i.closed then i.lower * unit ≤ value && value ≤ i.upper * unit
  else i.lower * unit < value && value < i.upper * unit

/-- The power of ten at or below a positive double; every one of them exceeds `10 ^ -400`. -/
def magnitude (x : Binary) : Int :=
  ((digits (x.numerator * Nat.pow 10 400 / x.denominator)).length : Int) - 401

/-- The decimal nearest to the value among its neighbours on the grid of `10 ^ exponent`, provided
it lies in the interval. -/
def onGrid (x : Binary) (i : Interval) (exponent : Int) : Option Scaled :=
  let num := x.numerator * Nat.pow 10 (-exponent).toNat
  let den := x.denominator * Nat.pow 10 exponent.toNat
  let below := num / den
  let nearest := roundHalfEven num den
  let other := if nearest = below then below + 1 else below
  if i.holds ⟨nearest, exponent⟩ then some ⟨nearest, exponent⟩
  else if i.holds ⟨other, exponent⟩ then some ⟨other, exponent⟩
  else none

/-- The shortest decimal that rounds back to a positive double: seventeen digits always do. -/
def shortest (x : Binary) : Scaled :=
  let i := Interval.of x
  let top := magnitude x
  ((List.range 17).findSome? fun (n : Nat) => onGrid x i (top - n)).getD
    ⟨x.numerator / x.denominator, 0⟩

/-- The digits of a decimal without trailing zeros, and the power of ten of the first one. -/
def Scaled.significant (d : Scaled) : List Char × Int :=
  let ds := digits d.coefficient
  let kept := (ds.reverse.dropWhile (· == '0')).reverse
  (if kept.isEmpty then ['0'] else kept, d.exponent + ds.length - 1)

end ChatConsole.Decimal
