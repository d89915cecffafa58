import Mathlib.Data.List.Forall2
import ChatConsole.Proofs.Text.Lowercase
import ChatConsole.Proofs.Text.Trim
import ChatConsole.Role

/-! # Words that name roles

Whether a text names a role, and which one, depends on its word alone: what is left in small letters
without the blanks around it (`parse_eq_ok_iff`). A tag is its own word, so the tag of a role that
was read names the same role again. As the text is lowered before its characters are looked at, a
Kelvin sign passes for a letter, and no other character outside ASCII does.
-/

namespace ChatConsole.Role

open Text (IsTrimmed LowersToAscii asciiForm isBlank kelvinSign lowercase trim trimChars)

/-- Characters of a tag. -/
def isTagChar (c : Char) : Bool := c.isLower || c.isDigit || c == '-' || c == '_'

/-- A tag as it is read from a text. -/
structure IsTag (tag : List Char) : Prop where
  ne_nil : tag ≠ []
  isTagChar : ∀ c ∈ tag, isTagChar c

/-- The word of a text: small letters, without the blanks around them. -/
def wordOf (s : String) : List Char := (trimChars s.toList).map asciiForm

/-- An ASCII letter in its other case. -/
def otherCase (c : Char) : Char := if c.isUpper then c.toLower else c.toUpper

/-- The second text is the first with some of its ASCII letters in the other case. -/
def Recased (s t : String) : Prop :=
  List.Forall₂ (fun c d => d = c ∨ d = otherCase c) s.toList t.toList

instance (s t : String) : Decidable (Recased s t) :=
  inferInstanceAs (Decidable (List.Forall₂ _ s.toList t.toList))

/-! ## Characters -/

section

variable {c : Char}

/-- What holds of each of the first characters holds of all of ASCII. -/
theorem forall_ascii {P : Char → Prop} (h : ∀ n < 128, P (Char.ofNat n)) (hc : c.toNat < 128) :
    P c := by
  have hChar := h c.toNat hc
  rwa [Char.ofNat_toNat] at hChar

theorem lt_of_isAlpha (h : c.isAlpha) : c.toNat < 128 := by
  rcases Bool.or_eq_true_iff.mp (show (c.isUpper || c.isLower) = true from h) with hUpper | hLower
  · have hBound : c.toNat ≤ 'Z'.toNat := (of_decide_eq_true hUpper).2
    exact Nat.lt_of_le_of_lt hBound (by decide)
  · have hBound : c.toNat ≤ 'z'.toNat := of_decide_eq_true (Bool.and_eq_true_iff.mp hLower).2
    exact Nat.lt_of_le_of_lt hBound (by decide)

theorem toLower_of_le (h : 128 ≤ c.toNat) : c.toLower = c := by
  refine dif_neg fun hUpper => ?_
  have hBound : c.toNat ≤ 'Z'.toNat := hUpper.2
  exact absurd (Nat.le_trans h hBound) (by decide)

theorem toUpper_of_le (h : 128 ≤ c.toNat) : c.toUpper = c := by
  refine dif_neg fun hLower => ?_
  have hBound : c.toNat ≤ 'z'.toNat := hLower.2
  exact absurd (Nat.le_trans h hBound) (by decide)

theorem lt_of_isWordChar (h : isWordChar c) : c.toNat < 128 := by
  simp only [isWordChar, Char.isAlphanum, Bool.or_eq_true, beq_iff_eq] at h
  rcases h with ((hAlpha | hDigit) | rfl) | rfl
  · exact lt_of_isAlpha hAlpha
  · exact Nat.lt_of_le_of_lt (Char.isDigit_iff_toNat.mp hDigit).2 (by decide)
  · decide
  · decide

theorem isWordChar_of_isTagChar (h : isTagChar c) : isWordChar c := by
  have hLetter (hLower : c.isLower) : c.isAlphanum := by
    show (c.isUpper || c.isLower || c.isDigit) = true
    rw [hLower, Bool.or_true, Bool.true_or]
  have hNumber (hDigit : c.isDigit) : c.isAlphanum := by
    show (c.isAlpha || c.isDigit) = true
    rw [hDigit, Bool.or_true]
  simp only [isTagChar, isWordChar, Bool.or_eq_true] at h ⊢
  rcases h with ((hLower | hDigit) | hDash) | hLine
  · exact Or.inl (Or.inl (hLetter hLower))
  · exact Or.inl (Or.inl (hNumber hDigit))
  · exact Or.inl (Or.inr hDash)
  · exact Or.inr hLine

theorem toLower_of_isTagChar (h : isTagChar c) : c.toLower = c := by
  have hAscii := lt_of_isWordChar (isWordChar_of_isTagChar h)
  exact forall_ascii (P := fun c => isTagChar c → c.toLower = c) (by decide) hAscii h

/-- The characters of a word are those that small letters make characters of a tag. -/
theorem isTagChar_toLower (c : Char) : isTagChar c.toLower = isWordChar c := by
  by_cases hAscii : c.toNat < 128
  · exact forall_ascii (P := fun c => isTagChar c.toLower = isWordChar c) (by decide) hAscii
  · rw [toLower_of_le (Nat.le_of_not_lt hAscii), Bool.eq_iff_iff]
    exact ⟨isWordChar_of_isTagChar, fun h => absurd (lt_of_isWordChar h) hAscii⟩

theorem ne_kelvinSign (h : c.toNat < 128) : c ≠ kelvinSign := by
  rintro rfl
  exact absurd h (by decide)

theorem asciiForm_of_isTagChar (h : isTagChar c) : asciiForm c = c := by
  have hSign := ne_kelvinSign (lt_of_isWordChar (isWordChar_of_isTagChar h))
  rw [Text.asciiForm_of_ne hSign, toLower_of_isTagChar h]

theorem isTagChar_asciiForm_iff : isTagChar (asciiForm c) ↔ isWordChar c ∨ c = kelvinSign := by
  by_cases hSign : c = kelvinSign
  · rw [hSign]
    decide
  · rw [Text.asciiForm_of_ne hSign, isTagChar_toLower, or_iff_left hSign]

theorem isWordChar_asciiForm_iff : isWordChar (asciiForm c) ↔ isTagChar (asciiForm c) := by
  by_cases hAscii : c.toNat < 128
  · exact forall_ascii (P := fun c => isWordChar (asciiForm c) ↔ isTagChar (asciiForm c))
      (by decide) hAscii
  · by_cases hSign : c = kelvinSign
    · rw [hSign]
      decide
    · rw [Text.asciiForm_of_ne hSign, toLower_of_le (Nat.le_of_not_lt hAscii)]
      exact ⟨fun h => absurd (lt_of_isWordChar h) hAscii, isWordChar_of_isTagChar⟩

/-- What tells no ASCII letter from its small form tells no character from it. -/
theorem apply_toLower {α : Type} {f : Char → α}
    (h : ∀ n < 128, f (Char.ofNat n).toLower = f (Char.ofNat n)) (c : Char) :
    f c.toLower = f c := by
  by_cases hAscii : c.toNat < 128
  · exact forall_ascii (P := fun c => f c.toLower = f c) h hAscii
  · rw [toLower_of_le (Nat.le_of_not_lt hAscii)]

theorem asciiForm_toLower (c : Char) : asciiForm c.toLower = asciiForm c :=
  apply_toLower (by decide) c

theorem isBlank_toLower (c : Char) : isBlank c.toLower = isBlank c := apply_toLower (by decide) c

theorem not_isBlank_of_isTagChar (h : isTagChar c) : ¬ isBlank c := by
  have hAscii := lt_of_isWordChar (isWordChar_of_isTagChar h)
  exact forall_ascii (P := fun c => isTagChar c → ¬ isBlank c) (by decide) hAscii h

theorem toLower_otherCase (c : Char) : (otherCase c).toLower = c.toLower := by
  by_cases hAscii : c.toNat < 128
  · exact forall_ascii (P := fun c => (otherCase c).toLower = c.toLower) (by decide) hAscii
  · have hLe : 128 ≤ c.toNat := Nat.le_of_not_lt hAscii
    rw [otherCase, toLower_of_le hLe, toUpper_of_le hLe, ite_self, toLower_of_le hLe]

end

/-! ## Words -/

theorem IsTag.isTrimmed {tag : List Char} (h : IsTag tag) : IsTrimmed tag where
  head := fun c hHead => not_isBlank_of_isTagChar (h.isTagChar c (List.mem_of_mem_head? hHead))
  last := fun c hLast => not_isBlank_of_isTagChar (h.isTagChar c (List.mem_of_getLast? hLast))

/-- A tag is its own word. -/
theorem IsTag.wordOf_eq {tag : List Char} (h : IsTag tag) : wordOf (String.ofList tag) = tag := by
  rw [wordOf, String.toList_ofList, h.isTrimmed.trimChars_eq]
  have hSame : ∀ c ∈ tag, asciiForm c = id c :=
    fun c hMem => asciiForm_of_isTagChar (h.isTagChar c hMem)
  rw [List.map_congr_left hSame, List.map_id]

/-- Blanks around a text do not belong to its word. -/
theorem wordOf_append_blanks {before after : String} (hBefore : ∀ c ∈ before.toList, isBlank c)
    (hAfter : ∀ c ∈ after.toList, isBlank c) (s : String) :
    wordOf (before ++ s ++ after) = wordOf s := by
  rw [wordOf, String.toList_append, String.toList_append,
    Text.trimChars_append_blanks hBefore hAfter, wordOf]

/-- The word of a text can be read off its small ASCII letters. -/
theorem wordOf_eq_of_toLower (s : String) :
    wordOf s = (trimChars (s.toList.map Char.toLower)).map asciiForm := by
  rw [Text.trimChars_map isBlank_toLower, List.map_map]
  exact List.map_congr_left fun c _ => (asciiForm_toLower c).symm

/-- The case of the letters of a text does not show in its word. -/
theorem Recased.wordOf_eq {s t : String} (h : Recased s t) : wordOf t = wordOf s := by
  have hSame : t.toList.map Char.toLower = s.toList.map Char.toLower := by
    unfold Recased at h
    generalize s.toList = cs, t.toList = ds at h
    induction h with
    | nil => rfl
    | cons hHead _ ih =>
      rw [List.map_cons, List.map_cons, ih]
      rcases hHead with rfl | rfl
      · rfl
      · rw [toLower_otherCase]
  rw [wordOf_eq_of_toLower, hSame, ← wordOf_eq_of_toLower]

/-! ## Reading a role -/

/-- A text whose small letters make a tag is lowered letter by letter. -/
theorem lowercase_eq_of_isTagChar {cs : List Char} (h : ∀ d ∈ cs.map asciiForm, isTagChar d) :
    lowercase cs = cs.map asciiForm := by
  refine Text.lowercase_eq_map fun c hMem => ?_
  rcases isTagChar_asciiForm_iff.mp (h _ (List.mem_map_of_mem hMem)) with hWord | hSign
  · exact Or.inl (lt_of_isWordChar hWord)
  · exact Or.inr hSign

/-- If the lower-case form of a text passes for a word, then its small letters make a tag. -/
theorem isTagChar_of_lowercase {cs : List Char} (h : ∀ d ∈ lowercase cs, isWordChar d) :
    ∀ d ∈ cs.map asciiForm, isTagChar d := by
  have hAscii := Text.lowersToAscii_of_lowercase fun d hMem => lt_of_isWordChar (h d hMem)
  rw [Text.lowercase_eq_map hAscii] at h
  intro d hMem
  obtain ⟨c, -, rfl⟩ := List.mem_map.mp hMem
  exact isWordChar_asciiForm_iff.mp (h _ hMem)

/-- **A text names a role when its word is a tag**, and then it names the role with this tag. -/
theorem parse_eq_ok_iff {s : String} {r : Role} :
    parse s = .ok r ↔ IsTag (wordOf s) ∧ r = ofTag (String.ofList (wordOf s)) := by
  constructor
  · intro h
    unfold parse at h
    simp only at h
    split at h
    · cases h
    · next hWord =>
      rw [Bool.or_eq_true, not_or, Bool.not_eq_true', Bool.not_eq_false, List.all_eq_true] at hWord
      have hTag : ∀ d ∈ wordOf s, isTagChar d := isTagChar_of_lowercase hWord.2
      have hLower : lowercase (trimChars s.toList) = wordOf s := lowercase_eq_of_isTagChar hTag
      rw [hLower] at h hWord
      exact ⟨⟨fun hNil => hWord.1 (List.isEmpty_iff.mpr hNil), hTag⟩, (Except.ok.inj h).symm⟩
  · rintro ⟨hTag, rfl⟩
    have hLower : lowercase (trimChars s.toList) = wordOf s :=
      lowercase_eq_of_isTagChar hTag.isTagChar
    have hWord : (wordOf s).all isWordChar :=
      List.all_eq_true.mpr fun d hMem => isWordChar_of_isTagChar (hTag.isTagChar d hMem)
    have hNonempty : (wordOf s).isEmpty = false := by simpa using hTag.ne_nil
    unfold parse
    simp only [hLower, hWord, hNonempty, Bool.not_true, Bool.or_false, Bool.false_eq_true, if_false]

theorem eq_of_parse_eq_error {s : String} {e : InvalidRole} (h : parse s = .error e) :
    e = ⟨s⟩ := by
  unfold parse at h
  simp only at h
  split at h
  · exact (Except.error.inj h).symm
  · cases h

/-- **Which texts name roles.** Blanks aside these are the words of ASCII letters, digits, `-` and
`_`, where a Kelvin sign passes for the letter whose small form it has. The tag is the word in small
letters, and what is no word comes back as it was. -/
theorem words_of_parse (s : String) :
    ((∃ r, parse s = .ok r) ↔
        trim s ≠ "" ∧
          ∀ c ∈ (trim s).toList, c.isAlphanum ∨ c = '-' ∨ c = '_' ∨ c = kelvinSign) ∧
      (∀ r, parse s = .ok r → r.tag = String.ofList ((trim s).toList.map asciiForm)) ∧
      ∀ e, parse s = .error e → e = ⟨s⟩ := by
  have hWord : wordOf s = (trim s).toList.map asciiForm := by rw [Text.toList_trim, wordOf]
  have hChar : ∀ c, isTagChar (asciiForm c) ↔
      c.isAlphanum ∨ c = '-' ∨ c = '_' ∨ c = kelvinSign := by
    intro c
    rw [isTagChar_asciiForm_iff, isWordChar, Bool.or_eq_true, Bool.or_eq_true, beq_iff_eq,
      beq_iff_eq, or_assoc, or_assoc]
  refine ⟨⟨?_, ?_⟩, ?_, fun e => eq_of_parse_eq_error⟩
  · rintro ⟨r, h⟩
    obtain ⟨hTag, -⟩ := parse_eq_ok_iff.mp h
    rw [hWord] at hTag
    refine ⟨fun hEmpty => hTag.ne_nil (by rw [hEmpty]; rfl), fun c hMem => ?_⟩
    exact (hChar c).mp (hTag.isTagChar _ (List.mem_map_of_mem hMem))
  · rintro ⟨hNonempty, hChars⟩
    refine ⟨_, parse_eq_ok_iff.mpr ⟨⟨?_, ?_⟩, rfl⟩⟩
    · rw [hWord, Ne, List.map_eq_nil_iff, String.toList_eq_nil_iff]
      exact hNonempty
    · intro d hMem
      rw [hWord] at hMem
      obtain ⟨c, hTrim, rfl⟩ := List.mem_map.mp hMem
      exact (hChar c).mpr (hChars c hTrim)
  · intro r h
    obtain ⟨-, rfl⟩ := parse_eq_ok_iff.mp h
    rw [tag_ofTag, hWord]

/-- A sign that is no letter of ASCII names a role by itself. -/
theorem kelvin_sign_names_role :
    ¬ ∀ s : String,
      ((∃ r, parse s = .ok r) ↔
          trim s ≠ "" ∧ ∀ c ∈ (trim s).toList, c.isAlphanum ∨ c = '-' ∨ c = '_') ∧
        (∀ r, parse s = .ok r → r.tag = String.ofList ((trim s).toList.map Char.toLower)) ∧
        ∀ e, parse s = .error e → e = ⟨s⟩ := by
  intro hAll
  obtain ⟨hWords, -⟩ := hAll "\u212a"
  have hParse : parse "\u212a" = .ok (.other "k") := by decide
  obtain ⟨-, hChars⟩ := hWords.mp ⟨_, hParse⟩
  exact absurd (hChars kelvinSign (by decide)) (by decide)

theorem ofTag_ne_other {tag : String} (h : tag = "client" ∨ tag = "manager") (t : String) :
    ofTag t ≠ .other tag := by
  unfold ofTag
  split
  · simp
  · next hClient =>
    split
    · simp
    · next hManager =>
      intro hSame
      obtain rfl := Role.other.inj hSame
      exact h.elim hClient hManager

/-- **A role that was read is canonical.** Its tag is a word of small letters that names the role
again, the roles that are known are never read as others, blanks around the text and the case of its
letters make no difference, and roles that were read are equal when their tags are. -/
theorem canonical_of_parse {s : String} {r : Role} (h : parse s = .ok r) :
    IsTag r.tag.toList ∧ parse r.tag = .ok r ∧ r ≠ .other "client" ∧ r ≠ .other "manager" ∧
      (∀ before after : String, (∀ c ∈ before.toList, isBlank c) → (∀ c ∈ after.toList, isBlank c) →
        parse (before ++ s ++ after) = .ok r) ∧
      (∀ t, Recased s t → parse t = .ok r) ∧
      ∀ t q, parse t = .ok q → (r = q ↔ r.tag = q.tag) := by
  obtain ⟨hTag, rfl⟩ := parse_eq_ok_iff.mp h
  have hOther {t : String} (ht : wordOf t = wordOf s) :
      parse t = .ok (ofTag (String.ofList (wordOf s))) :=
    parse_eq_ok_iff.mpr ⟨ht.symm ▸ hTag, by rw [ht]⟩
  rw [tag_ofTag, String.toList_ofList]
  refine ⟨hTag, hOther hTag.wordOf_eq, ofTag_ne_other (Or.inl rfl) _, ofTag_ne_other (Or.inr rfl) _,
    fun before after hBefore hAfter => hOther (wordOf_append_blanks hBefore hAfter s),
    fun t hCase => hOther hCase.wordOf_eq, ?_⟩
  intro t q hq
  obtain ⟨-, rfl⟩ := parse_eq_ok_iff.mp hq
  rw [tag_ofTag]
  exact ⟨fun hEq => by rw [← tag_ofTag (String.ofList (wordOf s)), hEq, tag_ofTag], congrArg ofTag⟩

/-- A word with a Kelvin sign and capitals between wide blanks. -/
theorem canonical_of_parse_recased :
    let s := "\u2003Wor\u212aER-7_\n"
    let r := Role.other "worker-7_"
    parse s = .ok r ∧ IsTag r.tag.toList ∧ parse r.tag = .ok r ∧
      parse ("\t" ++ s ++ "\u3000") = .ok r ∧ parse "\u2003wOR\u212aEr-7_\n" = .ok r ∧
      parse "MANAGER" = .ok .manager ∧ (r = .manager ↔ r.tag = "manager") := by
  intro s r
  have h : parse s = .ok r := by decide
  have hManager : parse "MANAGER" = .ok .manager := by decide
  obtain ⟨hTag, hAgain, -, -, hBlanks, hCase, hEqual⟩ := canonical_of_parse h
  have hBefore : ∀ c ∈ "\t".toList, isBlank c := by simp [isBlank]
  have hAfter : ∀ c ∈ "\u3000".toList, isBlank c := by simp [isBlank]
  exact ⟨h, hTag, hAgain, hBlanks _ _ hBefore hAfter, hCase _ (by decide), hManager,
    hEqual _ _ hManager⟩

end ChatConsole.Role
