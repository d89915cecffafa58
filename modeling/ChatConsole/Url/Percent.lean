import ChatConsole.Text.Utf8

/-! # Percent encoding

A byte that may not stand for itself is written as `%` and two hexadecimal digits. Which bytes these
are depends on the part of a URL; bytes outside ASCII are always among them. Decoding leaves a `%`
that no two hexadecimal digits follow as it is.
-/

namespace ChatConsole.Url.Percent

open ChatConsole.Text (Bytes Utf8.encode)

/-- An upper-case hexadecimal digit. -/
def hexDigit (n : Nat) : Char := if n < 10 then Char.ofNat (48 + n) else Char.ofNat (55 + n)

/-- What a hexadecimal digit of either case stands for. -/
def hexValue? (b : UInt8) : Option Nat :=
  let n := b.toNat
  if 48 ≤ n ∧ n ≤ 57 then some (n - 48)
  else if 65 ≤ n ∧ n ≤ 70 then some (n - 55)
  else if 97 ≤ n ∧ n ≤ 102 then some (n - 87)
  else none

/-- The escape of one byte. -/
def escape (b : UInt8) : List Char := ['%', hexDigit (b.toNat / 16), hexDigit (b.toNat % 16)]

/-- Writes ASCII bytes that are kept as themselves and escapes all others. -/
def encodeBytes (kept : Char → Bool) (bytes : Bytes) : List Char :=
  bytes.flatMap fun b =>
    let c := Char.ofNat b.toNat
    if b.toNat < 0x80 && kept c then [c] else escape b

def encode (kept : Char → Bool) (cs : List Char) : List Char := encodeBytes kept (Utf8.encode cs)

/-- The byte that an escape stands for, from its two digits. -/
def unescape? (high low : UInt8) : Option UInt8 :=
  match hexValue? high, hexValue? low with
  | some h, some l => some (h * 16 + l).toUInt8
  | _, _ => none

/-- The bytes with every escape replaced by what it stands for. -/
def decode : Bytes → Bytes
  | [] => []
  | [b] => [b]
  | [b, c] => [b, c]
  | b :: high :: low :: rest =>
    if b = 37 then
      match unescape? high low with
      | some byte => byte :: decode rest
      | none => b :: decode (high :: low :: rest)
    else b :: decode (high :: low :: rest)

/-- Control characters are escaped everywhere. -/
def isControl (c : Char) : Bool := c.toNat < 0x20 || c.toNat == 0x7F

def keptInFragment (c : Char) : Bool := !isControl c && !(" \"<>`".toList.contains c)

def keptInPath (c : Char) : Bool := keptInFragment c && !("#?\x7b\x7d".toList.contains c)

def keptInUserInfo (c : Char) : Bool := keptInPath c && !("/:;=@[\\]^|".toList.contains c)

def keptInQuery (c : Char) : Bool := !isControl c && !(" \"#<>'".toList.contains c)

end ChatConsole.Url.Percent
