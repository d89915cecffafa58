import Mathlib.Data.List.Basic
import Mathlib.Data.List.TakeWhile
import ChatConsole.Text.Blank

/-! # Trimmed texts

A text is trimmed when it neither begins nor ends with a blank character. Trimming gives a trimmed
text, and it changes no other one.
-/

namespace ChatConsole.Text

section

variable {α : Type} {p : α → Bool} {xs : List α}

/-- What is left after dropping begins with what was not to be dropped. -/
theorem not_of_head?_dropWhile {x : α} (h : (xs.dropWhile p).head? = some x) : ¬ p x := by
  induction xs with
  | nil => cases h
  | cons y ys ih =>
    by_cases hy : p y
    · rw [List.dropWhile_cons_of_pos hy] at h
      exact ih h
    · rw [List.dropWhile_cons_of_neg hy] at h
      obtain rfl := Option.some.inj h
      exact hy

theorem dropWhile_of_head? (h : ∀ x, xs.head? = some x → ¬ p x) : xs.dropWhile p = xs := by
  cases xs with
  | nil => rfl
  | cons x xs => exact List.dropWhile_cons_of_neg (h x rfl)

theorem not_of_getLast?_dropEnd {x : α} (h : (dropEnd p xs).getLast? = some x) : ¬ p x := by
  rw [dropEnd, List.getLast?_reverse] at h
  exact not_of_head?_dropWhile h

theorem dropEnd_of_getLast? (h : ∀ x, xs.getLast? = some x → ¬ p x) : dropEnd p xs = xs := by
  have hSame : xs.reverse.dropWhile p = xs.reverse := by
    refine dropWhile_of_head? fun x hHead => h x ?_
    rwa [List.head?_reverse] at hHead
  rw [dropEnd, hSame, List.reverse_reverse]

theorem dropEnd_prefix (p : α → Bool) (xs : List α) : dropEnd p xs <+: xs := by
  have hBack : xs.reverse.dropWhile p <:+ xs.reverse := List.dropWhile_suffix p
  have hFront : (xs.reverse.dropWhile p).reverse <+: xs.reverse.reverse :=
    List.reverse_prefix.mpr hBack
  rwa [List.reverse_reverse] at hFront

theorem dropEnd_append_of_pos {ys : List α} (h : ∀ y ∈ ys, p y) :
    dropEnd p (xs ++ ys) = dropEnd p xs := by
  have hBack : ∀ y ∈ ys.reverse, p y := fun y hMem => h y (List.mem_reverse.mp hMem)
  rw [dropEnd, List.reverse_append, List.dropWhile_append_of_pos hBack, dropEnd]

/-- Unless nothing is left, dropping at the end leaves the first element. -/
theorem head?_of_head?_dropEnd {x : α} (h : (dropEnd p xs).head? = some x) :
    xs.head? = some x := by
  obtain ⟨rest, hRest⟩ := dropEnd_prefix p xs
  rw [← hRest, List.head?_append, h]
  rfl

end

variable {cs : List Char}

/-- No blank character at either end. -/
structure IsTrimmed (cs : List Char) : Prop where
  head : ∀ c, cs.head? = some c → ¬ isBlank c
  last : ∀ c, cs.getLast? = some c → ¬ isBlank c

theorem isTrimmed_trimChars (cs : List Char) : IsTrimmed (trimChars cs) where
  head := by
    intro c hHead
    exact not_of_head?_dropWhile (head?_of_head?_dropEnd hHead)
  last := by
    intro c hLast
    exact not_of_getLast?_dropEnd hLast

theorem IsTrimmed.trimChars_eq (h : IsTrimmed cs) : trimChars cs = cs := by
  rw [trimChars, dropWhile_of_head? h.head, dropEnd_of_getLast? h.last]

theorem isTrimmed_of_trim_eq {s : String} (h : trim s = s) : IsTrimmed s.toList := by
  rw [← h, toList_trim]
  exact isTrimmed_trimChars s.toList

/-- What stands in front of a trimmed text decides whether the whole begins with a blank. -/
theorem IsTrimmed.append_left {ds : List Char} (hds : IsTrimmed ds) (hSome : ds ≠ []) {c : Char}
    (hHead : cs.head? = some c) (hBlank : ¬ isBlank c) : IsTrimmed (cs ++ ds) where
  head := by
    intro d hFirst
    rw [List.head?_append, hHead] at hFirst
    obtain rfl := Option.some.inj hFirst
    exact hBlank
  last := by
    intro d hEnd
    rw [List.getLast?_append_of_ne_nil cs hSome] at hEnd
    exact hds.last d hEnd

/-- Blanks around a text are taken off with its own. -/
theorem trimChars_append_blanks {before after : List Char} (hBefore : ∀ c ∈ before, isBlank c)
    (hAfter : ∀ c ∈ after, isBlank c) (cs : List Char) :
    trimChars (before ++ cs ++ after) = trimChars cs := by
  rw [trimChars, List.append_assoc, List.dropWhile_append_of_pos hBefore, List.dropWhile_append,
    trimChars]
  split
  · next hNone =>
    rw [List.isEmpty_iff.mp hNone, List.dropWhile_eq_nil_iff.mpr hAfter]
  · exact dropEnd_append_of_pos hAfter

theorem trim_append_blanks {before after : String} (hBefore : ∀ c ∈ before.toList, isBlank c)
    (hAfter : ∀ c ∈ after.toList, isBlank c) (s : String) :
    trim (before ++ s ++ after) = trim s := by
  rw [trim, String.toList_append, String.toList_append, trimChars_append_blanks hBefore hAfter]
  rfl

/-- Changing characters without making or unmaking a blank changes nothing about trimming. -/
theorem trimChars_map {f : Char → Char} (h : ∀ c, isBlank (f c) = isBlank c) (cs : List Char) :
    trimChars (cs.map f) = (trimChars cs).map f := by
  have hSame : isBlank ∘ f = isBlank := funext h
  rw [trimChars, List.dropWhile_map, hSame, dropEnd, ← List.map_reverse, List.dropWhile_map, hSame,
    ← List.map_reverse]
  rfl

theorem trim_trim (s : String) : trim (trim s) = trim s := by
  rw [trim, toList_trim, (isTrimmed_trimChars s.toList).trimChars_eq]
  rfl

end ChatConsole.Text
