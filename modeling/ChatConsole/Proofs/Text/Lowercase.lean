import Mathlib.Tactic.ByContra
import ChatConsole.Text.Lowercase

/-! # Lower-case forms within ASCII

A text whose lower-case form lies in ASCII consists of ASCII characters and Kelvin signs: the small
letter of a Kelvin sign is an ordinary `k`, and every other character outside ASCII leaves at least
one character outside ASCII behind. On such texts the lower-case form is taken letter by letter,
wherever in a word the letters stand.
-/

namespace ChatConsole.Text

/-- The sign of a unit of temperature, which Unicode takes for a capital `k`. -/
def kelvinSign : Char := Char.ofNat 0x212A

/-- The small letter of a character for which it lies in ASCII. -/
def asciiForm (c : Char) : Char := if c = kelvinSign then 'k' else c.toLower

/-- A character whose lower-case form lies in ASCII. -/
def LowersToAscii (c : Char) : Prop := c.toNat < 128 ∨ c = kelvinSign

theorem asciiForm_of_ne {c : Char} (h : c ≠ kelvinSign) : asciiForm c = c.toLower := if_neg h

/-! ## Characters -/

/-- No run of capitals comes down to ASCII, apart from the Kelvin sign. -/
theorem le_small_of_mem_capitals {run : CapitalRun} (hRun : run ∈ capitals) {n : Nat}
    (hContains : run.contains n) (hKelvin : n ≠ kelvinSign.toNat) : 128 ≤ (run.small n).toNat := by
  have hTable : ∀ run ∈ capitals,
      (run.first = kelvinSign.toNat ∧ run.last = kelvinSign.toNat) ∨
        (128 ≤ run.target ∧ run.target + (run.last - run.first) < 0xD800) ∨
        (0xDFFF < run.target ∧ run.target + (run.last - run.first) < 0x110000) := by
    set_option maxRecDepth 4000 in decide
  simp only [CapitalRun.contains, Bool.and_eq_true, decide_eq_true_eq] at hContains
  obtain ⟨⟨hFirst, hLast⟩, -⟩ := hContains
  have hTarget : 128 ≤ run.target + (n - run.first) ∧
      (run.target + (n - run.first)).isValidChar := by
    rcases hTable run hRun with hSign | hLow | hHigh
    · exact absurd (by omega) hKelvin
    · exact ⟨by omega, Or.inl (by omega)⟩
    · exact ⟨by omega, Or.inr (by omega)⟩
  rw [CapitalRun.small, Char.ofNat, dif_pos hTarget.2]
  exact hTarget.1

theorem lowerForm_kelvinSign : lowerForm kelvinSign = ['k'] := by decide

theorem lowerForm_eq {c : Char} (h : LowersToAscii c) : lowerForm c = [asciiForm c] := by
  by_cases hKelvin : c = kelvinSign
  · rw [hKelvin, lowerForm_kelvinSign, asciiForm, if_pos rfl]
  · have hAscii : c.toNat < 128 := h.resolve_right hKelvin
    rw [lowerForm, if_pos hAscii, asciiForm_of_ne hKelvin]

theorem exists_le_of_lowerForm {c : Char} (h : ¬ LowersToAscii c) :
    ∃ d ∈ lowerForm c, 128 ≤ d.toNat := by
  obtain ⟨hAscii, hKelvin⟩ := not_or.mp h
  rw [lowerForm, if_neg hAscii]
  split
  · exact ⟨dotAbove, by simp, by decide⟩
  · split
    · next run hFind =>
      have hNumber : c.toNat ≠ kelvinSign.toNat := by
        intro hSame
        exact hKelvin (by rw [← Char.ofNat_toNat c, hSame, Char.ofNat_toNat])
      exact ⟨_, List.mem_singleton_self _, le_small_of_mem_capitals
        (List.mem_of_find?_eq_some hFind) (by simpa using List.find?_some hFind) hNumber⟩
    · exact ⟨c, List.mem_singleton_self c, Nat.le_of_not_lt hAscii⟩

theorem le_smallSigma (before after : List Char) : 128 ≤ (smallSigma before after).toNat := by
  unfold smallSigma
  split <;> decide

theorem ne_capitalSigma {c : Char} (h : LowersToAscii c) : c ≠ capitalSigma := by
  rintro rfl
  exact absurd h (by unfold LowersToAscii; decide)

/-! ## Texts -/

theorem lowercaseAfter_eq_map {cs : List Char} (h : ∀ c ∈ cs, LowersToAscii c)
    (before : List Char) : lowercaseAfter before cs = cs.map asciiForm := by
  induction cs generalizing before with
  | nil => rfl
  | cons c cs ih =>
    have hHead : LowersToAscii c := h c List.mem_cons_self
    rw [lowercaseAfter, if_neg (ne_capitalSigma hHead), lowerForm_eq hHead,
      ih fun d hMem => h d (List.mem_cons_of_mem c hMem)]
    rfl

theorem exists_le_of_lowercaseAfter {cs : List Char} {c : Char} (hMem : c ∈ cs)
    (h : ¬ LowersToAscii c) (before : List Char) :
    ∃ d ∈ lowercaseAfter before cs, 128 ≤ d.toNat := by
  induction cs generalizing before with
  | nil => cases hMem
  | cons e cs ih =>
    rw [lowercaseAfter]
    rcases List.mem_cons.mp hMem with rfl | hLater
    · split
      · exact ⟨_, List.mem_cons_self, le_smallSigma before cs⟩
      · obtain ⟨d, hForm, hOutside⟩ := exists_le_of_lowerForm h
        exact ⟨d, List.mem_append_left _ hForm, hOutside⟩
    · obtain ⟨d, hRest, hOutside⟩ := ih hLater (e :: before)
      exact ⟨d, List.mem_append_right _ hRest, hOutside⟩

theorem lowersToAscii_of_lowercase {cs : List Char} (h : ∀ d ∈ lowercase cs, d.toNat < 128) :
    ∀ c ∈ cs, LowersToAscii c := by
  intro c hMem
  by_contra hOutside
  obtain ⟨d, hForm, hLe⟩ := exists_le_of_lowercaseAfter hMem hOutside []
  exact absurd (h d hForm) (Nat.not_lt.mpr hLe)

/-- A text with a lower-case form in ASCII is lowered letter by letter. -/
theorem lowercase_eq_map {cs : List Char} (h : ∀ c ∈ cs, LowersToAscii c) :
    lowercase cs = cs.map asciiForm := lowercaseAfter_eq_map h []

end ChatConsole.Text
