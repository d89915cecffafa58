import ChatConsole.Text.Split
import ChatConsole.Decimal.Natural

/-! # Numeric addresses

A version 4 address is up to four numbers, decimal, octal or hexadecimal, the last of which fills
what the others leave of 32 bits. A version 6 address is eight groups of 16 bits, of which one run
of zero groups may be left out; the last two groups may be written as a version 4 address.
-/

namespace ChatConsole.Url

/-- The digits of a numeral in the given base, without a sign. -/
def readBase? (base : Nat) (value? : Char → Option Nat) (cs : List Char) : Option Nat :=
  cs.foldlM (fun n c => (value? c).map (n * base + ·)) 0

def octalValue? (c : Char) : Option Nat :=
  if '0' ≤ c ∧ c ≤ '7' then some (c.toNat - '0'.toNat) else none

def hexadecimalValue? (c : Char) : Option Nat :=
  if '0' ≤ c ∧ c ≤ '9' then some (c.toNat - '0'.toNat)
  else if 'a' ≤ c ∧ c ≤ 'f' then some (c.toNat - 'a'.toNat + 10)
  else if 'A' ≤ c ∧ c ≤ 'F' then some (c.toNat - 'A'.toNat + 10)
  else none

namespace Ipv4

/-- One number of an address; `0x` in front means hexadecimal and another leading zero octal. -/
def number? : List Char → Option Nat
  | [] => none
  | '0' :: 'x' :: rest => readBase? 16 hexadecimalValue? rest
  | '0' :: 'X' :: rest => readBase? 16 hexadecimalValue? rest
  | '0' :: d :: rest => readBase? 8 octalValue? (d :: rest)
  | cs => readBase? 10 Decimal.digitValue? cs

/-- The labels of a domain, without the empty one after a final point. -/
def labels (domain : List Char) : List (List Char) :=
  let parts := Text.splitAt '.' domain
  if parts.getLast? = some [] then parts.dropLast else parts

/-- A domain whose last label is a number has to be an address. -/
def endsInNumber (domain : List Char) : Bool :=
  match (labels domain).getLast? with
  | some last => (!last.isEmpty && last.all Char.isDigit) || (number? last).isSome
  | none => false

/-- Whole addresses of four bytes, from the numbers in front of the last one and the last one. -/
def combine (front : List Nat) (last : Nat) : Nat :=
  (front.zipIdx.map fun (n, i) => n * Nat.pow 256 (3 - i)).foldr (· + ·) last

def parse? (domain : List Char) : Option Nat :=
  let parts := labels domain
  if 4 < parts.length then none
  else
    match parts.mapM number? with
    | none => none
    | some numbers =>
      match numbers.getLast? with
      | none => none
      | some last =>
        let front := numbers.dropLast
        if last < Nat.pow 256 (4 - front.length) && front.all (· < 256) then
          some (combine front last)
        else none

/-- Four decimal numbers with points between them. -/
def text (address : Nat) : String :=
  ".".intercalate ((List.range 4).map fun i => toString (address / Nat.pow 256 (3 - i) % 256))

end Ipv4

namespace Ipv6

/-- A group of one to four hexadecimal digits. -/
def group? (cs : List Char) : Option Nat :=
  if cs.isEmpty || 4 < cs.length then none else readBase? 16 hexadecimalValue? cs

/-- A decimal number below 256 without leading zeros. -/
def byte? (cs : List Char) : Option Nat :=
  if 1 < cs.length && cs.head? == some '0' then none else Decimal.readBelow? 256 cs

/-- The two groups of an address written as four bytes. -/
def embedded? (cs : List Char) : Option (List Nat) :=
  match (Text.splitAt '.' cs).mapM byte? with
  | some [a, b, c, d] => some [a * 256 + b, c * 256 + d]
  | _ => none

/-- Groups with colons between them; only the last may be four bytes, and only if `final`. -/
def groups? (final : Bool) (cs : List Char) : Option (List Nat) :=
  if cs.isEmpty then some []
  else
    let parts := Text.splitAt ':' cs
    match parts.getLast? with
    | none => none
    | some last => do
      let front ← parts.dropLast.mapM group?
      let back ← if final && last.contains '.' then embedded? last else (group? last).map ([·])
      some (front ++ back)

/-- Splits at the first double colon. -/
def splitGap : List Char → Option (List Char × List Char)
  | ':' :: ':' :: rest => some ([], rest)
  | c :: rest => (splitGap rest).map fun (front, back) => (c :: front, back)
  | [] => none

/-- The eight groups of an address. -/
def parse? (cs : List Char) : Option (List Nat) :=
  match splitGap cs with
  | none => do
    let groups ← groups? true cs
    if groups.length = 8 then some groups else none
  | some (front, back) => do
    let front ← groups? false front
    let back ← groups? true back
    if front.length + back.length < 8 then
      some (front ++ List.replicate (8 - front.length - back.length) 0 ++ back)
    else none

/-- Lower-case hexadecimal digits without leading zeros. -/
def groupText (n : Nat) : String := String.ofList (Nat.toDigits 16 n)

/-- How many zero groups begin at each place. -/
def zeroRuns : List Nat → List Nat
  | [] => []
  | g :: rest =>
    let runs := zeroRuns rest
    (if g = 0 then runs.headD 0 + 1 else 0) :: runs

/-- The address with the first of its longest runs of two or more zero groups left out. -/
def text (groups : List Nat) : String :=
  let runs := zeroRuns groups
  let longest := runs.foldl max 0
  if longest < 2 then ":".intercalate (groups.map groupText)
  else
    let start := runs.findIdx (· == longest)
    ":".intercalate ((groups.take start).map groupText) ++ "::" ++
      ":".intercalate ((groups.drop (start + longest)).map groupText)

end Ipv6

end ChatConsole.Url
