/-! # Decimal numerals of natural numbers

`digits n` writes a number without leading zeros; `read?` reads one or more ASCII digits and
`readBelow?` also wants the number to be small enough.
-/

namespace ChatConsole.Decimal

/-- The decimal digits of a number, most significant first. -/
def digits (n : Nat) : List Char := Nat.toDigits 10 n

/-- The text of a number, at least `width` characters long, zeros in front. -/
def padded (width n : Nat) : String :=
  let ds := digits n
  String.ofList (List.replicate (width - ds.length) '0' ++ ds)

/-- What an ASCII digit stands for. -/
def digitValue? (c : Char) : Option Nat :=
  if '0' ≤ c ∧ c ≤ '9' then some (c.toNat - '0'.toNat) else none

/-- Continues the number `n` with further digits; `none` at a character that is no digit. -/
def extend? (n : Nat) : List Char → Option Nat
  | [] => some n
  | c :: cs =>
    match digitValue? c with
    | some d => extend? (n * 10 + d) cs
    | none => none

/-- The number that one or more ASCII digits denote. -/
def read? (cs : List Char) : Option Nat := if cs.isEmpty then none else extend? 0 cs

/-- The number that the digits denote, if it is below `bound`. -/
def readBelow? (bound : Nat) (cs : List Char) : Option Nat :=
  (read? cs).filter (· < bound)

/-- What 64 unsigned bits hold is below this. -/
def word : Nat := 18446744073709551616

/-- The quotient rounded to the nearest integer, a half to the even neighbour. -/
def roundHalfEven (num den : Nat) : Nat :=
  let q := num / den
  let twice := 2 * (num % den)
  if twice < den then q
  else if den < twice then q + 1
  else if q % 2 = 0 then q
  else q + 1

end ChatConsole.Decimal
