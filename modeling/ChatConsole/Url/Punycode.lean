/-! # Punycode

Writes any text with ASCII characters alone: first its own ASCII characters, then where each other
character goes, in ascending order, as differences in a variable-length notation of base 36.
-/

namespace ChatConsole.Url.Punycode

def digit (n : Nat) : Char := if n < 26 then Char.ofNat (0x61 + n) else Char.ofNat (0x16 + n)

/-- The value of a digit. Capitals are none. -/
def digitValue? (c : Char) : Option Nat :=
  let n := c.toNat
  if 0x61 ≤ n ∧ n ≤ 0x7A then some (n - 0x61)
  else if 0x30 ≤ n ∧ n ≤ 0x39 then some (n - 0x16)
  else none

/-- A digit below this one is the last of its number. Places count by 36. -/
def threshold (bias place : Nat) : Nat := min 26 (max 1 (place - bias))

theorem one_le_threshold (bias place : Nat) : 1 ≤ threshold bias place := by
  unfold threshold; omega

theorem threshold_le (bias place : Nat) : threshold bias place ≤ 26 := by
  unfold threshold; omega

/-- Scales a difference down by 35 as long as it is large, and counts the places. -/
def scaleDown (delta place : Nat) : Nat × Nat :=
  if 455 < delta then scaleDown (delta / 35) (place + 36) else (delta, place)
termination_by delta

/-- The bias after a difference, with `count` characters written by then. -/
def nextBias (delta count : Nat) (isFirst : Bool) : Nat :=
  let halved := if isFirst then delta / 700 else delta / 2
  let (scaled, place) := scaleDown (halved + halved / count) 0
  place + 36 * scaled / (scaled + 38)

/-- The digits of a number, the least significant first. -/
def digits (bias place number : Nat) : List Char :=
  let t := threshold bias place
  if number < t then [digit number]
  else digit (t + (number - t) % (36 - t)) :: digits bias (place + 36) ((number - t) / (36 - t))
termination_by number
decreasing_by
  have := one_le_threshold bias place
  have := Nat.div_le_self (number - threshold bias place) (36 - threshold bias place)
  omega

def isBasic (c : Char) : Bool := c.toNat < 0x80

/-- How far the writing has come: the digits so far, what to add to the next difference, the
bias, and how many characters are written. -/
structure Progress where
  written : List Char
  delta : Nat
  bias : Nat
  count : Nat

/-- Passes one character of the text while those of code point `n` are written. -/
def Progress.pass (basics n : Nat) (p : Progress) (c : Char) : Progress :=
  if c.toNat < n then { p with delta := p.delta + 1 }
  else if c.toNat = n then
    { written := p.written ++ digits p.bias 36 p.delta
      delta := 0
      bias := nextBias p.delta (p.count + 1) (p.count == basics)
      count := p.count + 1 }
  else p

/-- Writes the characters of the given code points, ascending, all from `low` on. -/
def writeFrom (cs : List Char) (basics : Nat) : Nat → List Nat → Progress → List Char
  | _, [], p => p.written
  | low, n :: rest, p =>
    let reached := { p with delta := p.delta + (n - low) * (p.count + 1) }
    let passed := cs.foldl (Progress.pass basics n) reached
    writeFrom cs basics (n + 1) rest { passed with delta := passed.delta + 1 }

def encode (cs : List Char) : List Char :=
  let basic := cs.filter isBasic
  let others := ((cs.filter (!isBasic ·)).map Char.toNat).mergeSort.eraseDups
  basic ++ (if basic.isEmpty then [] else ['-'])
    ++ writeFrom cs basic.length 0x80 others ⟨[], 0, 72, basic.length⟩

/-- Reads a number, whose digits from here on count `weight` each, and adds it to `sum`. Also
gives what follows it. -/
def readNumber? (bias : Nat) : List Char → Nat → Nat → Nat → Option (Nat × List Char)
  | [], _, _, _ => none
  | c :: rest, place, weight, sum =>
    match digitValue? c with
    | none => none
    | some d =>
      let t := threshold bias place
      if d < t then some (sum + d * weight, rest)
      else readNumber? bias rest (place + 36) (weight * (36 - t)) (sum + d * weight)

theorem readNumber?_length_lt {bias place weight sum : Nat} {cs : List Char} {r : Nat × List Char}
    (h : readNumber? bias cs place weight sum = some r) : r.2.length < cs.length := by
  induction cs generalizing place weight sum with
  | nil => simp [readNumber?] at h
  | cons c rest ih =>
    rw [readNumber?] at h
    split at h
    · simp at h
    · dsimp only at h
      split at h
      · cases h; simp
      · have := ih h
        simp only [List.length_cons]
        omega

/-- Puts the characters in that the digits tell, the next one not before place `i` nor of a code
point below `n`. -/
def insertAll? (cs : List Char) (bias n i : Nat) (input : List Char) : Option (List Char) :=
  match input with
  | [] => some cs
  | c :: rest =>
    match h : readNumber? bias (c :: rest) 36 1 i with
    | none => none
    | some (sum, rest') =>
      let count := cs.length + 1
      let n' := n + sum / count
      let i' := sum % count
      if n'.isValidChar then
        insertAll? (cs.insertIdx i' (Char.ofNat n')) (nextBias (sum - i) count (i == 0)) n' (i' + 1)
          rest'
      else none
termination_by input.length
decreasing_by exact readNumber?_length_lt h

/-- What stands before the last hyphen and after it. A hyphen in front is none. -/
def splitBasic (cs : List Char) : List Char × List Char :=
  let tail := (cs.reverse.takeWhile (· != '-')).reverse
  let basic := cs.take (cs.length - tail.length - 1)
  if basic.isEmpty then ([], cs) else (basic, tail)

def decode? (cs : List Char) : Option (List Char) :=
  let (basic, rest) := splitBasic cs
  insertAll? basic 72 0x80 0 rest

end ChatConsole.Url.Punycode
