import ChatConsole.Text.Blank
import ChatConsole.Text.Split

/-! # The pieces of a text

Splitting at a separator gives one piece more than there are separators, no piece holds one, and the
pieces with separators between them are the text again. If elements are dropped at the end of each
piece, what is lost of the text is exactly the runs of them that stand in front of a separator or at
the end: for lines and carriage returns this is `withoutReturns`.
-/

namespace ChatConsole.Text

variable {separator : Char} {cs : List Char}

/-! ## Splitting -/

theorem splitAt_cons_self (separator : Char) (cs : List Char) :
    splitAt separator (separator :: cs) = [] :: splitAt separator cs := if_pos rfl

theorem exists_splitAt_cons_of_ne {c : Char} (h : c ≠ separator) (cs : List Char) :
    ∃ piece pieces, splitAt separator cs = piece :: pieces ∧
      splitAt separator (c :: cs) = (c :: piece) :: pieces := by
  obtain ⟨piece, pieces, hPieces⟩ := List.exists_cons_of_ne_nil (splitAt_ne_nil separator cs)
  refine ⟨piece, pieces, hPieces, ?_⟩
  rw [splitAt, if_neg h, hPieces]

theorem splitAt_eq (separator : Char) (cs : List Char) :
    splitAt separator cs = cs.splitOn separator := by
  rw [List.splitOn_eq_splitOnP]
  induction cs with
  | nil => rfl
  | cons c cs ih =>
    rw [List.splitOnP_cons_eq_if_modifyHead, ← ih]
    by_cases hc : c = separator
    · subst hc
      rw [splitAt_cons_self, if_pos (beq_self_eq_true c)]
    · obtain ⟨piece, pieces, hPieces, hCons⟩ := exists_splitAt_cons_of_ne hc cs
      rw [hCons, hPieces, if_neg (by simpa using hc)]
      rfl

/-- **Nothing is lost by splitting.** -/
theorem intercalate_splitAt (separator : Char) (cs : List Char) :
    [separator].intercalate (splitAt separator cs) = cs := by
  rw [splitAt_eq]
  exact List.intercalate_splitOn separator

theorem length_splitAt (separator : Char) (cs : List Char) :
    (splitAt separator cs).length = cs.count separator + 1 := by
  induction cs with
  | nil => rfl
  | cons c cs ih =>
    by_cases hc : c = separator
    · subst hc
      rw [splitAt_cons_self, List.length_cons, ih, List.count_cons_self]
    · obtain ⟨piece, pieces, hPieces, hCons⟩ := exists_splitAt_cons_of_ne hc cs
      rw [hPieces] at ih
      rw [hCons, List.count_cons_of_ne hc, ← ih]
      rfl

theorem notMem_of_mem_splitAt {piece : List Char} (h : piece ∈ splitAt separator cs) :
    separator ∉ piece := by
  induction cs generalizing piece with
  | nil =>
    obtain rfl := List.mem_singleton.mp h
    exact List.not_mem_nil
  | cons c cs ih =>
    by_cases hc : c = separator
    · subst hc
      rw [splitAt_cons_self] at h
      rcases List.mem_cons.mp h with rfl | hLater
      · exact List.not_mem_nil
      · exact ih hLater
    · obtain ⟨first, pieces, hPieces, hCons⟩ := exists_splitAt_cons_of_ne hc cs
      rw [hPieces] at ih
      rw [hCons] at h
      rcases List.mem_cons.mp h with rfl | hLater
      · intro hMem
        rcases List.mem_cons.mp hMem with hHere | hFirst
        · exact hc hHere.symm
        · exact ih List.mem_cons_self hFirst
      · exact ih (List.mem_cons_of_mem _ hLater)

/-! ## Dropping at the end of each piece -/

theorem dropEnd_cons (p : α → Bool) (x : α) (xs : List α) :
    dropEnd p (x :: xs) = if p x ∧ dropEnd p xs = [] then [] else x :: dropEnd p xs := by
  have hNil : dropEnd p xs = [] ↔ (xs.reverse.dropWhile p).isEmpty := by
    rw [dropEnd, List.reverse_eq_nil_iff, List.isEmpty_iff]
  rw [dropEnd, List.reverse_cons, List.dropWhile_append]
  by_cases hRest : dropEnd p xs = []
  · rw [if_pos (hNil.mp hRest), hRest]
    by_cases hx : p x <;> simp [hx]
  · rw [if_neg fun h => hRest (hNil.mpr h), if_neg fun h => hRest h.2, List.reverse_append]
    rfl

/-- Whether nothing but carriage returns stands before the next break or the end. -/
def endsLine (cs : List Char) : Bool := ((cs.dropWhile (· == '\r')).head?.getD '\n') == '\n'

/-- The text without the carriage returns at the end of each line. -/
def withoutReturns : List Char → List Char
  | [] => []
  | c :: cs => if c = '\r' ∧ endsLine cs then withoutReturns cs else c :: withoutReturns cs

theorem withoutReturns_break (cs : List Char) :
    withoutReturns ('\n' :: cs) = '\n' :: withoutReturns cs := by
  rw [withoutReturns, if_neg fun h => absurd h.1 (by decide)]

/-- A line ends where only carriage returns are left of it. -/
theorem endsLine_append {line rest : List Char} (hLine : '\n' ∉ line)
    (hRest : ∀ c, rest.head? = some c → c = '\n') :
    endsLine (line ++ rest) ↔ dropEnd (· == '\r') line = [] := by
  induction line with
  | nil =>
    rw [List.nil_append, dropEnd_nil]
    cases rest with
    | nil => simp [endsLine]
    | cons c rest =>
      obtain rfl := hRest c rfl
      simp [endsLine]
  | cons c line ih =>
    have hHead : c ≠ '\n' := fun h => hLine (h ▸ List.mem_cons_self)
    have hTail : '\n' ∉ line := fun h => hLine (List.mem_cons_of_mem _ h)
    rw [dropEnd_cons, List.cons_append]
    by_cases hc : c = '\r'
    · subst hc
      have hSkip : endsLine ('\r' :: (line ++ rest)) = endsLine (line ++ rest) := by
        simp [endsLine]
      rw [hSkip, ih hTail]
      simp
    · simp [endsLine, hc, hHead]

theorem withoutReturns_append {line rest : List Char} (hLine : '\n' ∉ line)
    (hRest : ∀ c, rest.head? = some c → c = '\n') :
    withoutReturns (line ++ rest) = dropEnd (· == '\r') line ++ withoutReturns rest := by
  induction line with
  | nil => rfl
  | cons c line ih =>
    have hTail : '\n' ∉ line := fun h => hLine (List.mem_cons_of_mem _ h)
    have hEnds := endsLine_append hTail hRest
    rw [List.cons_append, withoutReturns, ih hTail, dropEnd_cons]
    by_cases hDropped : c = '\r' ∧ dropEnd (· == '\r') line = []
    · rw [if_pos ⟨hDropped.1, hEnds.mpr hDropped.2⟩,
        if_pos ⟨beq_iff_eq.mpr hDropped.1, hDropped.2⟩, hDropped.2]
    · rw [if_neg fun h => hDropped ⟨h.1, hEnds.mp h.2⟩,
        if_neg fun h => hDropped ⟨beq_iff_eq.mp h.1, h.2⟩]
      rfl

/-- Lines lose their carriage returns wherever they stand in a text. -/
theorem withoutReturns_intercalate {lines : List (List Char)}
    (h : ∀ line ∈ lines, '\n' ∉ line) :
    withoutReturns (['\n'].intercalate lines) =
      ['\n'].intercalate (lines.map (dropEnd (· == '\r'))) := by
  induction lines with
  | nil => rfl
  | cons line lines ih =>
    have hLine := h line List.mem_cons_self
    cases lines with
    | nil =>
      have hOnly : withoutReturns (line ++ []) = dropEnd (· == '\r') line ++ [] :=
        withoutReturns_append hLine (by simp)
      simpa [withoutReturns] using hOnly
    | cons next lines =>
      have hRest := ih fun other hOther => h other (List.mem_cons_of_mem _ hOther)
      rw [List.map_cons, List.map_cons, List.intercalate_cons_cons, List.intercalate_cons_cons,
        List.append_assoc, List.append_assoc, List.singleton_append, List.singleton_append,
        withoutReturns_append hLine (by simp), withoutReturns_break, hRest, List.map_cons]

/-- **What is lost of the lines of a text are the carriage returns at their ends.** -/
theorem intercalate_dropEnd_splitAt (cs : List Char) :
    ['\n'].intercalate ((splitAt '\n' cs).map (dropEnd (· == '\r'))) = withoutReturns cs := by
  have hLines : ∀ line ∈ splitAt '\n' cs, '\n' ∉ line := fun _ => notMem_of_mem_splitAt
  rw [← withoutReturns_intercalate hLines, intercalate_splitAt]

end ChatConsole.Text
