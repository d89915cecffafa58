import ChatConsole.Decimal.Binary
import ChatConsole.Toml.Quoted

/-! # TOML numerals and dates

Digits may have single underscores between them. A decimal integer has no leading zeros;
hexadecimal, octal and binary ones have no sign. A date has to exist, and a time has to have
seconds.
-/

namespace ChatConsole.Toml.Scan

open ChatConsole.Decimal (readBelow?)

def isDigit (c : Char) : Bool := '0' ≤ c && c ≤ '9'

/-- One or more digits with single underscores between them, which are left out. -/
def digitRun (p : Char → Bool) : Scan (List Char) := do
  let groups ← separated (just '_') do
    let first ← char p
    let rest ← run p
    pure (first :: rest)
  return groups.flatten

/-- The number that digits of a base denote. -/
def natOf (base : Nat) (ds : List Char) : Nat :=
  ds.foldl (fun n c => n * base + (hexValue? c).getD 0) 0

def sign : Scan Int :=
  (do just '+'; pure 1) <|> (do just '-'; pure (-1)) <|> pure 1

/-- The digits of a decimal integer: a zero alone, or digits that begin with another one. -/
def wholeDigits : Scan (List Char) := (do just '0'; pure ['0']) <|> digitRun isDigit

/-- An integer with the letter of its base after a zero. -/
def based (letter : Char) (base : Nat) : Scan Int := do
  word ['0', letter]
  let ds ← digitRun fun c => (hexValue? c).any (· < base)
  return natOf base ds

def decimal : Scan Int := do
  let s ← sign
  return s * (natOf 10 (← wholeDigits) : Int)

def integer : Scan Value := do
  let n ← based 'x' 16 <|> based 'o' 8 <|> based 'b' 2 <|> decimal
  if isInteger n then pure (.integer n) else failure

/-- The power of ten after an `e`. -/
def exponent : Scan Int := do
  let _ ← char fun c => c == 'e' || c == 'E'
  let s ← sign
  return s * (natOf 10 (← digitRun isDigit) : Int)

/-- Whether `digits * 10 ^ exponent` is below the numbers that round to infinity. A number of more
than 400 digits before the point is above all of them, and one that is below `10 ^ -400` rounds to
zero. -/
def isFinite (digits : List Char) (exponent : Int) : Bool :=
  let ds := digits.dropWhile (· == '0')
  let size : Int := ds.length + exponent
  if ds.isEmpty ∨ size < -400 then true
  else if 400 < size then false
  else
    (Decimal.double.round (natOf 10 ds * Nat.pow 10 exponent.toNat)
      (Nat.pow 10 (-exponent).toNat)).isSome

/-- A float. Only positive infinity has to be written as such. -/
def float : Scan Value := do
  let s ← sign
  let special := word "inf".toList <|> word "nan".toList
  let written : Scan Unit := do
    let whole ← wholeDigits
    let fraction ← maybe (do just '.'; digitRun isDigit)
    let power ← maybe exponent
    if fraction.isNone ∧ power.isNone then failure
    let part := fraction.getD []
    if s < 0 ∨ isFinite (whole ++ part) (power.getD 0 - part.length) then pure () else failure
  special <|> written
  return .float

/-! ## Dates and times -/

/-- Exactly `count` digits that denote a number from `low` to `high`. -/
def fixedDigits (count low high : Nat) : Scan Nat := fun cs => do
  let n ← readBelow? (high + 1) (cs.take count)
  if low ≤ n ∧ count ≤ cs.length then some (n, cs.drop count) else none

def isLeap (year : Nat) : Bool := year % 4 == 0 && (year % 100 != 0 || year % 400 == 0)

def daysIn (year month : Nat) : Nat :=
  if month = 2 then (if isLeap year then 29 else 28)
  else if month = 4 ∨ month = 6 ∨ month = 9 ∨ month = 11 then 30
  else 31

def date : Scan Unit := do
  let year ← fixedDigits 4 0 9999
  just '-'
  let month ← fixedDigits 2 1 12
  just '-'
  let _ ← fixedDigits 2 1 (daysIn year month)

def clock : Scan Unit := do
  let _ ← fixedDigits 2 0 23
  just ':'
  let _ ← fixedDigits 2 0 59
  just ':'
  let _ ← fixedDigits 2 0 60
  let _ ← maybe (do just '.'; let _ ← char isDigit; run isDigit)

/-- The distance from universal time. -/
def zone : Scan Unit :=
  (do let _ ← char fun c => c == 'Z' || c == 'z') <|>
    (do
      let _ ← char fun c => c == '+' || c == '-'
      let _ ← fixedDigits 2 0 23
      just ':'
      let _ ← fixedDigits 2 0 59)

def moment : Scan Value := do
  (do
      date
      let _ ← maybe (do
        let _ ← char fun c => c == 'T' || c == 't' || c == ' '
        clock
        maybe zone)) <|> clock
  return .moment

end ChatConsole.Toml.Scan
