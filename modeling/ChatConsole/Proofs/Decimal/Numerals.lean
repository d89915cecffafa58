import Mathlib.Data.Nat.Digits.Lemmas
import ChatConsole.Decimal.Natural

/-! # Numerals and their values

A numeral is a list of ASCII digits, at least one of them, and denotes a number with the last digit
for the units. The reader gives that number for every numeral and rejects all else, however many
zeros stand in front.
-/

namespace ChatConsole.Decimal

/-- What the character stands for as a digit. -/
def digitValue (c : Char) : Nat := c.toNat - '0'.toNat

/-- The number that the characters denote, read as digits. -/
def value (cs : List Char) : Nat := Nat.ofDigits 10 (cs.reverse.map digitValue)

theorem value_cons (c : Char) (cs : List Char) :
    value (c :: cs) = digitValue c * 10 ^ cs.length + value cs := by
  unfold value
  rw [List.reverse_cons, List.map_append, Nat.ofDigits_append, List.map_singleton,
    Nat.ofDigits_singleton, List.length_map, List.length_reverse, Nat.add_comm, Nat.mul_comm]

/-- The list is a numeral for the number. -/
structure IsNumeral (ds : List Char) (n : Nat) : Prop where
  ne_nil : ds ≠ []
  digits : ∀ c ∈ ds, c.isDigit
  value_eq : value ds = n

theorem digitValue?_eq (c : Char) :
    digitValue? c = if c.isDigit then some (digitValue c) else none := by
  have hDigit : ('0' ≤ c ∧ c ≤ '9') ↔ c.isDigit := by
    rw [Char.isDigit, Bool.and_eq_true, decide_eq_true_iff, decide_eq_true_iff]
    rfl
  unfold digitValue?
  simp only [hDigit]
  rfl

/-- The number read so far moves up by one place for each further digit. -/
theorem extend?_eq_some_iff {m n : Nat} {cs : List Char} :
    extend? m cs = some n ↔ (∀ c ∈ cs, c.isDigit) ∧ m * 10 ^ cs.length + value cs = n := by
  induction cs generalizing m with
  | nil => simp [extend?, value]
  | cons c cs ih =>
    rw [extend?, digitValue?_eq, List.forall_mem_cons]
    by_cases hDigit : c.isDigit
    · have hPlaces : (m * 10 + digitValue c) * 10 ^ cs.length + value cs =
          m * 10 ^ (c :: cs).length + value (c :: cs) := by
        rw [value_cons, List.length_cons]
        ring
      rw [if_pos hDigit, and_assoc, and_iff_right hDigit, ← hPlaces]
      exact ih
    · rw [if_neg hDigit]
      constructor
      · intro h
        cases h
      · intro h
        exact absurd h.1.1 hDigit

theorem read?_eq_some_iff {cs : List Char} {n : Nat} : read? cs = some n ↔ IsNumeral cs n := by
  have hRead : extend? 0 cs = some n ↔
      (∀ c ∈ cs, c.isDigit) ∧ 0 * 10 ^ cs.length + value cs = n := extend?_eq_some_iff
  rw [Nat.zero_mul, Nat.zero_add] at hRead
  unfold read?
  cases cs with
  | nil =>
    constructor
    · intro h
      cases h
    · intro h
      exact absurd rfl h.ne_nil
  | cons c cs =>
    constructor
    · intro h
      obtain ⟨hDigits, hValue⟩ := hRead.mp h
      exact ⟨List.cons_ne_nil c cs, hDigits, hValue⟩
    · intro h
      exact hRead.mpr ⟨h.digits, h.value_eq⟩

theorem readBelow?_eq_some_iff {bound : Nat} {cs : List Char} {n : Nat} :
    readBelow? bound cs = some n ↔ IsNumeral cs n ∧ n < bound := by
  rw [readBelow?, Option.filter_eq_some_iff, read?_eq_some_iff, decide_eq_true_iff]

end ChatConsole.Decimal
