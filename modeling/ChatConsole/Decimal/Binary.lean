import ChatConsole.Decimal.Natural

/-! # Binary floating-point values

A value is `mantissa * 2 ^ exponent` with a natural mantissa. A format fixes how many bits the
mantissa has and how small the exponent may be; every result is the exact one rounded to the nearest
value of the format, a half to the even mantissa.
-/

namespace ChatConsole.Decimal

/-- The number `mantissa * 2 ^ exponent`. -/
structure Binary where
  mantissa : Nat
  exponent : Int
  deriving DecidableEq, Repr

namespace Binary

def numerator (x : Binary) : Nat := x.mantissa * Nat.pow 2 x.exponent.toNat
def denominator (x : Binary) : Nat := Nat.pow 2 (-x.exponent).toNat

end Binary

/-- How many bits a mantissa has, the least exponent, and the power of two no value reaches. -/
structure BinaryFormat where
  precision : Nat
  minExponent : Int
  limit : Nat

/-- Eight bytes: 53 bits, the least positive value `2 ^ -1074`. -/
def double : BinaryFormat := ⟨53, -1074, 1024⟩

/-- Four bytes: 24 bits, the least positive value `2 ^ -149`. -/
def single : BinaryFormat := ⟨24, -149, 128⟩

namespace BinaryFormat

/-- Scales `num / den` by `2 ^ (-e)`. -/
def scaled (num den : Nat) (e : Int) : Nat × Nat :=
  (num * Nat.pow 2 (-e).toNat, den * Nat.pow 2 e.toNat)

/-- The exponent that gives the mantissa of `num / den` exactly `precision` bits, or the least
one. -/
def exponentFor (f : BinaryFormat) (num den : Nat) : Int :=
  let guess : Int := (num.log2 : Int) - den.log2 - f.precision + 1
  let (n, d) := scaled num den guess
  let e := if n / d < Nat.pow 2 (f.precision - 1) then guess - 1 else guess
  max e f.minExponent

/-- The value of the format nearest to `num / den`; `none` when it is too large. -/
def round (f : BinaryFormat) (num den : Nat) : Option Binary :=
  let e := if num = 0 then f.minExponent else f.exponentFor num den
  let (n, d) := scaled num den e
  let m := roundHalfEven n d
  let x : Binary :=
    if m = Nat.pow 2 f.precision then ⟨Nat.pow 2 (f.precision - 1), e + 1⟩ else ⟨m, e⟩
  if x.numerator < Nat.pow 2 f.limit * x.denominator then some x else none

def ofNat (f : BinaryFormat) (n : Nat) : Option Binary := f.round n 1

def add (f : BinaryFormat) (x y : Binary) : Option Binary :=
  f.round (x.numerator * y.denominator + y.numerator * x.denominator)
    (x.denominator * y.denominator)

def mul (f : BinaryFormat) (x y : Binary) : Option Binary :=
  f.round (x.numerator * y.numerator) (x.denominator * y.denominator)

/-- The quotient; dividing by zero is left undefined. -/
def div (f : BinaryFormat) (x y : Binary) : Option Binary :=
  if y.mantissa = 0 then none
  else f.round (x.numerator * y.denominator) (x.denominator * y.numerator)

end BinaryFormat

/-- A value with `places` digits after the point, a half to the even last digit. -/
def fixed (places : Nat) (x : Binary) : String :=
  let scaled := roundHalfEven (x.numerator * Nat.pow 10 places) x.denominator
  let fraction := if places = 0 then "" else "." ++ padded places (scaled % Nat.pow 10 places)
  String.ofList (digits (scaled / Nat.pow 10 places)) ++ fraction

end ChatConsole.Decimal
