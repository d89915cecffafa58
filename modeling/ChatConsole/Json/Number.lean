import ChatConsole.Json.Value

/-! # Numerals

A numeral without fraction and exponent that fits 64 bits is an integer; any other numeral is a
double. Its digits are collected while they fit 64 unsigned bits: later digits before the point only
raise the power of ten, later digits after it are dropped. The collected number is rounded to a
double and then multiplied or divided by a rounded power of ten, at most 308 places at a time; a
result too large for a double is no number.
-/

namespace ChatConsole.Json

/-- The parts of a numeral. -/
structure Numeral where
  isNegative : Bool
  whole : List Char
  fraction : Option (List Char)
  /-- Whether the exponent is negative, and its digits. -/
  exponent : Option (Bool × List Char)

namespace Numeral

/-- Takes digits into `n` while it fits a word: the number, how many digits it took, and the
rest. -/
def gather (n : Nat) : List Char → Nat × Nat × List Char
  | [] => (n, 0, [])
  | c :: cs =>
    let next := n * 10 + (c.toNat - '0'.toNat)
    if next < Decimal.word then
      let (m, taken, rest) := gather next cs
      (m, taken + 1, rest)
    else (n, 0, c :: cs)

/-- A power of ten as a double, for at most 308 zeros. -/
def powerOfTen (k : Nat) : Option Decimal.Binary := Decimal.double.ofNat (Nat.pow 10 k)

/-- Divides by `10 ^ k`, in steps of 308 places until nothing is left. -/
def shrink (x : Decimal.Binary) (k : Nat) : Option Decimal.Binary :=
  if k ≤ 308 then do Decimal.double.div x (← powerOfTen k)
  else if x.mantissa = 0 then some x
  else do shrink (← Decimal.double.div x (← powerOfTen 308)) (k - 308)
termination_by k

/-- Multiplies by `10 ^ k`. -/
def grow (x : Decimal.Binary) (k : Nat) : Option Decimal.Binary :=
  if k ≤ 308 then do Decimal.double.mul x (← powerOfTen k)
  else if x.mantissa = 0 then some x
  else none

/-- The double for `n * 10 ^ exponent`. -/
def scale (n : Nat) (exponent : Int) : Option Decimal.Binary := do
  let x ← Decimal.double.ofNat n
  if 0 ≤ exponent then grow x exponent.toNat else shrink x (-exponent).toNat

/-- The largest exponent that is read as a number. -/
def maxExponent : Nat := 2147483647

/-- Brings an exponent into the range of 32 signed bits. -/
def clamp (e : Int) : Int := max (-2147483648) (min e 2147483647)

/-- The size of a numeral with a fraction, an exponent or too many digits. -/
def size (collected : Nat) (shift : Int) : Option (Bool × List Char) → Option Decimal.Binary
  | none => scale collected shift
  | some (isNegative, ds) =>
    match Decimal.readBelow? (maxExponent + 1) ds with
    | some e => scale collected (clamp (if isNegative then shift - e else shift + e))
    | none =>
      if collected = 0 || isNegative then Decimal.double.ofNat 0 else none

/-- The number a numeral denotes. -/
def value? (numeral : Numeral) : Option Number :=
  let (whole, _, extra) := gather 0 numeral.whole
  match numeral.fraction, numeral.exponent, extra with
  | none, none, [] =>
    if !numeral.isNegative then some (.natural whole)
    else if 0 < whole ∧ whole ≤ 9223372036854775808 then some (.negative whole)
    else (Decimal.double.ofNat whole).map (.real true)
  | fraction, exponent, extra =>
    let (collected, taken, _) := gather whole (fraction.getD [])
    (size collected (extra.length - taken) exponent).map (.real numeral.isNegative)

end Numeral

end ChatConsole.Json
