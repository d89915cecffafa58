import ChatConsole.Url.Percent

/-! # Form encoding of a query

A query is a list of names with values: pairs are joined by `&`, a name and its value by `=`, a
space is written as `+`, and every byte but letters, digits, `*`, `-`, `.` and `_` is escaped.
Reading accepts any text: empty pairs are skipped, a missing `=` means an empty value, and bytes
that are no UTF-8 become replacement characters.
-/

namespace ChatConsole.Url.Form

open ChatConsole.Text (Bytes Utf8.encode Utf8.decodeLossy)

abbrev Pairs := List (String × String)

/-- Bytes that stand for themselves. -/
def isPlain (c : Char) : Bool :=
  ('0' ≤ c && c ≤ '9') || ('A' ≤ c && c ≤ 'Z') || ('a' ≤ c && c ≤ 'z') ||
    c == '*' || c == '-' || c == '.' || c == '_'

def encodeByte (b : UInt8) : List Char :=
  let c := Char.ofNat b.toNat
  if c = ' ' then ['+']
  else if b.toNat < 0x80 && isPlain c then [c]
  else Percent.escape b

/-- One name or value. -/
def encodePart (s : String) : List Char := (Utf8.encode s.toList).flatMap encodeByte

def encodePair (pair : String × String) : List Char :=
  encodePart pair.1 ++ '=' :: encodePart pair.2

/-- The query that lists the pairs. -/
def encode (pairs : Pairs) : String :=
  String.ofList (List.flatten ((pairs.map encodePair).intersperse ['&']))

/-- The pieces between the occurrences of a byte. -/
def split (separator : UInt8) : Bytes → List Bytes
  | [] => [[]]
  | b :: rest =>
    if b = separator then [] :: split separator rest
    else
      match split separator rest with
      | [] => [[b]]
      | piece :: pieces => (b :: piece) :: pieces

/-- What stands before the first `=` and what stands after it. -/
def splitPair (bytes : Bytes) : Bytes × Bytes :=
  (bytes.takeWhile (· != 61), (bytes.dropWhile (· != 61)).drop 1)

def decodePart (bytes : Bytes) : String :=
  let spaced := bytes.map fun b => if b = 43 then 32 else b
  String.ofList (Utf8.decodeLossy (Percent.decode spaced))

def decodePair (bytes : Bytes) : String × String :=
  let (name, value) := splitPair bytes
  (decodePart name, decodePart value)

/-- The pairs of a query. -/
def decode (query : String) : Pairs :=
  ((split 38 (Utf8.encode query.toList)).filter (!·.isEmpty)).map decodePair

end ChatConsole.Url.Form
