/-! # UTF-8

Encoding writes each character as one to four bytes. Decoding reads any bytes: a sequence that is
not well formed is read as the replacement character, one for each longest run of bytes that could
have begun a character.
-/

namespace ChatConsole.Text

abbrev Bytes := List UInt8

namespace Utf8

/-- The bytes of one character. -/
def encodeChar (c : Char) : Bytes :=
  let n := c.toNat
  if n < 0x80 then [n.toUInt8]
  else if n < 0x800 then [(0xC0 + n / 0x40).toUInt8, (0x80 + n % 0x40).toUInt8]
  else if n < 0x10000 then
    [(0xE0 + n / 0x1000).toUInt8, (0x80 + n / 0x40 % 0x40).toUInt8, (0x80 + n % 0x40).toUInt8]
  else
    [(0xF0 + n / 0x40000).toUInt8, (0x80 + n / 0x1000 % 0x40).toUInt8,
      (0x80 + n / 0x40 % 0x40).toUInt8, (0x80 + n % 0x40).toUInt8]

def encode (s : List Char) : Bytes := s.flatMap encodeChar

/-- Stands for bytes that are no character. -/
def replacement : Char := Char.ofNat 0xFFFD

/-- What a first byte announces: how many bytes follow, its own bits, and the bounds of the
byte after it. -/
def lead? (b : UInt8) : Option (Nat × Nat × Nat × Nat) :=
  let n := b.toNat
  if n < 0x80 then some (0, n, 0, 0)
  else if n < 0xC2 then none
  else if n < 0xE0 then some (1, n - 0xC0, 0x80, 0xBF)
  else if n < 0xF0 then
    some (2, n - 0xE0, if n = 0xE0 then 0xA0 else 0x80, if n = 0xED then 0x9F else 0xBF)
  else if n < 0xF5 then
    some (3, n - 0xF0, if n = 0xF0 then 0x90 else 0x80, if n = 0xF4 then 0x8F else 0xBF)
  else none

/-- Reads up to `count` continuation bytes into `acc`, the first of them between `low` and `high`:
whether all were there, what they make, and the bytes after them. -/
def continuation (count acc low high : Nat) (input : Bytes) : Bool × Nat × Bytes :=
  match count, input with
  | 0, rest => (true, acc, rest)
  | _ + 1, [] => (false, acc, [])
  | count + 1, b :: rest =>
    if low ≤ b.toNat ∧ b.toNat ≤ high then
      continuation count (acc * 0x40 + (b.toNat - 0x80)) 0x80 0xBF rest
    else (false, acc, b :: rest)

theorem continuation_length_le (count acc low high : Nat) (input : Bytes) :
    (continuation count acc low high input).2.2.length ≤ input.length := by
  induction count generalizing acc low high input with
  | zero => simp [continuation]
  | succ count ih =>
    cases input with
    | nil => simp [continuation]
    | cons b rest =>
      rw [continuation]
      split
      · exact Nat.le_succ_of_le (ih ..)
      · exact Nat.le_refl _

/-- The next character of the bytes, or `none` where they are not well formed, and what is left. -/
def step (b : UInt8) (rest : Bytes) : Option Char × Bytes :=
  match lead? b with
  | none => (none, rest)
  | some (count, bits, low, high) =>
    match continuation count bits low high rest with
    | (true, n, rest) => (some (Char.ofNat n), rest)
    | (false, _, rest) => (none, rest)

theorem step_length_le (b : UInt8) (rest : Bytes) : (step b rest).2.length ≤ rest.length := by
  unfold step
  split
  · exact Nat.le_refl _
  · next count bits low high _ =>
    have hLength := continuation_length_le count bits low high rest
    split <;> next hStep => simpa [hStep] using hLength

/-- Reads any bytes; what is not well formed becomes the replacement character. -/
def decodeLossy : Bytes → List Char
  | [] => []
  | b :: rest =>
    have _hShorter := step_length_le b rest
    (step b rest).1.getD replacement :: decodeLossy (step b rest).2
termination_by bytes => bytes.length
decreasing_by simp only [List.length_cons]; omega

/-- Reads well-formed bytes only. -/
def decode? : Bytes → Option (List Char)
  | [] => some []
  | b :: rest =>
    have _hShorter := step_length_le b rest
    match (step b rest).1 with
    | none => none
    | some c => (decode? (step b rest).2).map (c :: ·)
termination_by bytes => bytes.length
decreasing_by simp only [List.length_cons]; omega

end Utf8

end ChatConsole.Text
