import ChatConsole.Decimal.Shortest
import ChatConsole.Json.Value

/-! # Writing JSON

The compact text of a value: no spaces, the members of an object in their order. A double is written
with the fewest digits that read back, positionally from `1e-5` up to below `1e16` and with an
exponent elsewhere.
-/

namespace ChatConsole.Json

namespace Number

/-- Digits around a point, where the first digit has the power of ten `top`. -/
def positional (ds : List Char) (top : Int) : List Char :=
  if 0 ≤ top then
    let places := top.toNat + 1
    let whole := ds.take places ++ List.replicate (places - ds.length) '0'
    let fraction := ds.drop places
    whole ++ '.' :: (if fraction.isEmpty then ['0'] else fraction)
  else ['0', '.'] ++ List.replicate ((-top).toNat - 1) '0' ++ ds

/-- One digit, the others after a point, and the power of ten of the first. -/
def scientific (ds : List Char) (top : Int) : List Char :=
  let mark := if 0 ≤ top then ['e', '+'] else ['e', '-']
  let exponent := mark ++ Decimal.digits top.natAbs
  match ds with
  | [] => exponent
  | [d] => d :: exponent
  | d :: rest => d :: '.' :: rest ++ exponent

/-- The text of a double without its sign. -/
def sizeChars (x : Decimal.Binary) : List Char :=
  if x.mantissa = 0 then ['0', '.', '0']
  else
    let (ds, top) := (Decimal.shortest x).significant
    if -5 ≤ top ∧ top < 16 then positional ds top else scientific ds top

def chars : Number → List Char
  | .natural n => Decimal.digits n
  | .negative n => '-' :: Decimal.digits n
  | .real isNegative x => (if isNegative then ['-'] else []) ++ sizeChars x

end Number

namespace Value

def hexDigit (n : Nat) : Char := Nat.digitChar n

/-- A character as it stands inside a string. -/
def escaped (c : Char) : List Char :=
  if c = '"' then ['\\', '"']
  else if c = '\\' then ['\\', '\\']
  else if c = '\n' then ['\\', 'n']
  else if c = '\r' then ['\\', 'r']
  else if c = '\t' then ['\\', 't']
  else if c.toNat = 8 then ['\\', 'b']
  else if c.toNat = 12 then ['\\', 'f']
  else if c.toNat < 0x20 then
    ['\\', 'u', '0', '0', hexDigit (c.toNat / 16), hexDigit (c.toNat % 16)]
  else [c]

def quoted (s : String) : List Char := '"' :: s.toList.flatMap escaped ++ ['"']

mutual

def chars : Value → List Char
  | .null => ['n', 'u', 'l', 'l']
  | .bool true => ['t', 'r', 'u', 'e']
  | .bool false => ['f', 'a', 'l', 's', 'e']
  | .number n => n.chars
  | .text s => quoted s
  | .list items => '[' :: itemChars items ++ [']']
  | .object members => '\x7b' :: memberChars members ++ ['\x7d']

def itemChars : List Value → List Char
  | [] => []
  | [v] => chars v
  | v :: w :: rest => chars v ++ ',' :: itemChars (w :: rest)

def memberChars : List (String × Value) → List Char
  | [] => []
  | [(name, v)] => quoted name ++ ':' :: chars v
  | (name, v) :: m :: rest => quoted name ++ ':' :: chars v ++ ',' :: memberChars (m :: rest)

end

/-- The compact text of a value. -/
def render (v : Value) : String := String.ofList v.chars

end Value

end ChatConsole.Json
