import ChatConsole.Json.Printer
import ChatConsole.Proofs.Json.Grammar

/-! # The members of an object

A text may write the members of an object in any order and several of one name. `last?` looks for
the last one of a name in the order of the text, and that is the one that the object holds. For
objects whose members are strings the compact text writes what it was made from.
-/

namespace ChatConsole.Json

/-! ## The last member of a name -/

/-- The value of the last member of this name. -/
def last? (name : String) (ms : List (String × Value)) : Option Value :=
  (ms.filter (·.1 = name)).getLast?.map Prod.snd

theorem last?_append (name : String) (ms ms' : List (String × Value)) :
    last? name (ms ++ ms') = (last? name ms').or (last? name ms) := by
  rw [last?, List.filter_append, List.getLast?_append, Option.map_or]
  rfl

theorem last?_singleton (name : String) (m : String × Value) :
    last? name [m] = if m.1 = name then some m.2 else none := by
  by_cases hName : m.1 = name
  · simp [last?, hName]
  · simp [last?, hName]

/-- Where no name comes twice, the order of the members does not matter. -/
theorem last?_perm {ms ms' : List (String × Value)} (hNames : (ms.map Prod.fst).Nodup)
    (h : ms.Perm ms') (name : String) : last? name ms = last? name ms' := by
  have hFilter : (ms.filter (·.1 = name)).Perm (ms'.filter (·.1 = name)) := h.filter _
  have hNamed : ∀ m ∈ ms.filter (·.1 = name), m.1 = name := fun m hMem => by
    simpa using (List.mem_filter.mp hMem).2
  have hOnce : ((ms.filter (·.1 = name)).map Prod.fst).Nodup :=
    hNames.sublist (List.filter_sublist.map Prod.fst)
  unfold last?
  generalize ms.filter (·.1 = name) = named at hFilter hNamed hOnce
  match named with
  | [] => rw [hFilter.nil_eq]
  | [m] => rw [List.singleton_perm.mp hFilter]
  | m :: n :: rest =>
    have hSame : m.1 = n.1 := (hNamed m (by simp)).trans (hNamed n (by simp)).symm
    simp [hSame] at hOnce

namespace Members

theorem find?_cons (name other : String) (w : Value) (members : Members) :
    find? name ((other, w) :: members) = if other = name then some w else find? name members := by
  rw [find?, List.lookup_cons]
  by_cases hName : other = name
  · simp [hName]
  · rw [if_neg hName, beq_eq_false_iff_ne.mpr (Ne.symm hName)]
    rfl

theorem find?_insert (name key : String) (v : Value) (members : Members) :
    find? name (members.insert key v) = if key = name then some v else find? name members := by
  induction members with
  | nil => rw [insert, find?_cons]
  | cons m members ih =>
    obtain ⟨other, w⟩ := m
    rw [insert]
    by_cases hLess : key < other
    · rw [if_pos hLess, find?_cons]
    · rw [if_neg hLess]
      by_cases hSame : key = other
      · rw [if_pos hSame, find?_cons, find?_cons, hSame]
        split <;> rfl
      · rw [if_neg hSame, find?_cons, find?_cons, ih]
        split_ifs with hOther hKey
        · exact absurd (hKey.trans hOther.symm) hSame
        · rfl
        · rfl
        · rfl

theorem find?_ofList (name : String) (ms : List (String × Value)) :
    find? name (ofList ms) = last? name ms := by
  induction ms using List.reverseRecOn with
  | nil => rfl
  | append_singleton ms m ih =>
    rw [ofList_concat, find?_insert, last?_append, last?_singleton, ih]
    split <;> rfl

end Members

/-! ## Objects -/

/-- A text writes an object with these members, in this order. -/
def WritesObject (s : String) (ms : List (String × Value)) : Prop :=
  ∃ members : List Member, Token.Spelled s.toList (objectTokens members) ∧
    (∀ m ∈ members, Derives (ReadState.maxDepth - 1) m.item.tokens m.item.value) ∧
    ms = members.map Member.pair

theorem WritesObject.writes {s : String} {ms : List (String × Value)} (h : WritesObject s ms) :
    Writes s (.object (Members.ofList ms)) := by
  obtain ⟨members, hSpelled, hMembers, rfl⟩ := h
  exact ⟨_, hSpelled, .object hMembers⟩

theorem Writes.exists_object {s : String} {members : Members} (h : Writes s (.object members)) :
    ∃ ms, WritesObject s ms ∧ members = Members.ofList ms := by
  obtain ⟨ts, hSpelled, hDerives⟩ := h
  cases hDerives with
  | object hMembers => exact ⟨_, ⟨_, hSpelled, hMembers, rfl⟩, rfl⟩

/-! ## Printed strings -/

namespace Token

theorem hexValue?_hexDigit {n : Nat} (h : n < 16) : hexValue? (Value.hexDigit n) = some n := by
  revert n
  decide +kernel

theorem eq_ofNat_of_toNat {c : Char} {n : Nat} (h : c.toNat = n) : c = Char.ofNat n := by
  rw [← h, Char.ofNat_toNat]

/-- Each character is printed in one of the ways to write it. -/
theorem charText_escaped (c : Char) : CharText c (Value.escaped c) := by
  unfold Value.escaped
  split_ifs with hQuote hSlash hLine hReturn hTab hBack hFeed hControl
  · exact .short (by simp [shortEscapes, hQuote])
  · exact .short (by simp [shortEscapes, hSlash])
  · exact .short (by simp [shortEscapes, hLine])
  · exact .short (by simp [shortEscapes, hReturn])
  · exact .short (by simp [shortEscapes, hTab])
  · exact .short (by simp [shortEscapes, eq_ofNat_of_toNat hBack])
  · exact .short (by simp [shortEscapes, eq_ofNat_of_toNat hFeed])
  · have hUnit : UnitText ['0', '0', Value.hexDigit (c.toNat / 16), Value.hexDigit (c.toNat % 16)]
        (((0 * 16 + 0) * 16 + c.toNat / 16) * 16 + c.toNat % 16) :=
      .mk rfl rfl (hexValue?_hexDigit (by omega)) (hexValue?_hexDigit (by omega))
    have hNumber : ((0 * 16 + 0) * 16 + c.toNat / 16) * 16 + c.toNat % 16 = c.toNat := by omega
    rw [hNumber] at hUnit
    exact .number (.single hUnit)
  · exact .plain (Nat.le_of_not_lt hControl) hQuote hSlash

theorem lexeme_quoted (s : String) : Lexeme (Value.quoted s) (.text s) := by
  have hContent : ∀ cs : List Char, ContentText cs (cs.flatMap Value.escaped) := by
    intro cs
    induction cs with
    | nil => exact .nil
    | cons c cs ih => exact .cons (charText_escaped c) ih
  have hLexeme := Lexeme.text (hContent s.toList)
  rwa [String.ofList_toList] at hLexeme

theorem spelled_memberChars {members : List Member}
    (h : ∀ m ∈ members, Spelled m.item.value.chars m.item.tokens) :
    Spelled (Value.memberChars (members.map Member.pair))
      ([.comma].intercalate (members.map Member.tokens)) := by
  have hMember : ∀ m ∈ members,
      Spelled (Value.quoted m.name ++ ':' :: m.item.value.chars) m.tokens := fun m hMem =>
    .lexeme (lexeme_quoted m.name) (.mark rfl (h m hMem))
  induction members with
  | nil =>
    rw [List.map_nil, List.map_nil, Value.memberChars]
    exact .nil
  | cons m members ih =>
    have hRest := ih (fun n hMem => h n (List.mem_cons_of_mem m hMem))
      fun n hMem => hMember n (List.mem_cons_of_mem m hMem)
    have hHere := hMember m List.mem_cons_self
    cases members with
    | nil =>
      rw [List.map_singleton, List.map_singleton, List.intercalate_singleton, Member.pair,
        Value.memberChars]
      exact hHere
    | cons n members =>
      rw [List.map_cons, List.map_cons, Member.pair, List.map_cons, List.map_cons,
        Value.memberChars, List.intercalate_cons_cons, List.append_assoc m.tokens]
      exact hHere.append (.mark rfl hRest)

end Token

/-- A member that is a string. -/
def textMember (m : String × String) : String × Value := (m.1, .text m.2)

/-- The tokens of such a member. -/
def Member.ofText (m : String × String) : Member := ⟨m.1, [.text m.2], .text m.2⟩

/-- The compact text of an object of strings writes it, whatever the strings are. -/
theorem writesObject_render (ms : List (String × String)) :
    WritesObject (Value.object (ms.map textMember)).render (ms.map textMember) := by
  have hPairs : ms.map textMember = (ms.map Member.ofText).map Member.pair := by
    rw [List.map_map]
    rfl
  have hMembers := @Token.spelled_memberChars (ms.map Member.ofText) fun m hMem => by
    obtain ⟨text, -, rfl⟩ := List.mem_map.mp hMem
    exact (Token.lexeme_quoted text.2).spelled
  refine ⟨ms.map Member.ofText, ?_, ?_, hPairs⟩
  · rw [hPairs, Value.render, String.toList_ofList, Value.chars, List.cons_append]
    exact .mark rfl (hMembers.append (.mark rfl .nil))
  · intro m hMem
    obtain ⟨text, -, rfl⟩ := List.mem_map.mp hMem
    exact .text text.2

end ChatConsole.Json
