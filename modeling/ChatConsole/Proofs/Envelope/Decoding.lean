import ChatConsole.Envelope
import ChatConsole.Proofs.Json.Members
import Mathlib.Logic.Relation

/-! # What an envelope is decoded to

Of an object only the last member of each of three names counts. Whatever else it has, the order it
is written in and the blanks between its tokens make no difference. Strings come through unchanged,
however they are written.
-/

namespace ChatConsole.Envelope

open Json (Value Writes WritesObject last? textMember)

/-- The names of the members that count. -/
def fieldNames : List String := ["type", "message", "user_id"]

/-- How a field that is read leniently stands to the last member of its name. -/
structure ReadsAs (field : Option String) (last : Option Value) : Prop where
  absent : field = none ↔ last = none ∨ last = some .null
  text : ∀ s, last = some (.text s) → field = some s
  other : ∀ v, last = some v → v ≠ .null → (∀ s, v ≠ .text s) → field = some v.render

theorem readsAs_memberText (last : Option Value) : ReadsAs (last.bind memberText) last where
  absent := by
    rcases last with _ | (_ | _ | _ | _ | _ | _) <;> simp [memberText]
  text := by
    rintro s rfl
    rfl
  other := by
    rintro v rfl hNull hText
    cases v with
    | null => exact absurd rfl hNull
    | text s => exact absurd rfl (hText s)
    | _ => rfl

theorem bind_memberTag (last : Option Value) (s : String) :
    last.bind memberTag = some s ↔ last = some (.text s) := by
  rcases last with _ | (_ | _ | _ | _ | _ | _) <;> simp [memberTag]

/-- Changes to the members of an object that no field notices. -/
inductive Edit : List (String × Value) → List (String × Value) → Prop
  /-- Members of different names change places. -/
  | reordered {ms ms' : List (String × Value)} (before after : List (String × Value))
      (names : (ms.map Prod.fst).Nodup) (h : ms.Perm ms') :
      Edit (before ++ ms ++ after) (before ++ ms' ++ after)
  /-- A member of a name that does not count is added. -/
  | added {m : String × Value} (before after : List (String × Value)) (h : m.1 ∉ fieldNames) :
      Edit (before ++ after) (before ++ [m] ++ after)
  /-- A member is added before another one of its name. -/
  | repeated {m n : String × Value} (before middle after : List (String × Value))
      (h : m.1 = n.1) :
      Edit (before ++ middle ++ [n] ++ after) (before ++ [m] ++ middle ++ [n] ++ after)

theorem Edit.last?_eq {ms ms' : List (String × Value)} (h : Edit ms ms') {name : String}
    (hName : name ∈ fieldNames) : last? name ms = last? name ms' := by
  cases h with
  | reordered before after names h =>
    simp only [Json.last?_append, Json.last?_perm names h]
  | @added m before after h =>
    have hOther : m.1 ≠ name := fun hSame => h (hSame ▸ hName)
    simp only [Json.last?_append, Json.last?_singleton, if_neg hOther, Option.none_or]
  | @repeated m n before middle after h =>
    simp only [Json.last?_append, Json.last?_singleton, h]
    by_cases hSame : n.1 = name
    · simp only [if_pos hSame, Option.some_or]
    · simp only [if_neg hSame, Option.none_or]

theorem last?_eq_of_edits {ms ms' : List (String × Value)} (h : Relation.ReflTransGen Edit ms ms')
    {name : String} (hName : name ∈ fieldNames) : last? name ms = last? name ms' := by
  induction h with
  | refl => rfl
  | tail _ hEdit ih => exact ih.trans (hEdit.last?_eq hName)

theorem decode_of_writes {raw : String} {v : Value} (h : Writes raw v) :
    decode raw = some (ofJson v) := by
  rw [decode, Json.parse?_eq_some_iff.mpr h]
  rfl

theorem decode_eq_none_iff (raw : String) : decode raw = none ↔ ∀ v, ¬ Writes raw v := by
  rw [decode, Option.map_eq_none_iff, Option.eq_none_iff_forall_ne_some]
  exact forall_congr' fun v => not_congr Json.parse?_eq_some_iff

theorem decode_of_object {raw : String} {ms : List (String × Value)} (h : WritesObject raw ms) :
    decode raw = some
      { tag := (last? "type" ms).bind memberTag
        message := (last? "message" ms).bind memberText
        author := (last? "user_id" ms).bind memberText } := by
  rw [decode_of_writes h.writes, ofJson]
  simp only [Json.Members.find?_ofList]

theorem decode_eq_of_last? {raw raw' : String} {ms ms' : List (String × Value)}
    (h : WritesObject raw ms) (h' : WritesObject raw' ms')
    (hLast : ∀ name ∈ fieldNames, last? name ms = last? name ms') : decode raw' = decode raw := by
  rw [decode_of_object h, decode_of_object h', hLast "type" (by simp [fieldNames]),
    hLast "message" (by simp [fieldNames]), hLast "user_id" (by simp [fieldNames])]

/-- What is not an object has none of the fields. -/
theorem decode_of_no_object {raw : String} {v : Value} (h : Writes raw v)
    (hObject : ∀ ms, ¬ WritesObject raw ms) : decode raw = some {} := by
  rw [decode_of_writes h]
  cases v with
  | object members =>
    obtain ⟨ms, hWrites, -⟩ := h.exists_object
    exact absurd hWrites (hObject ms)
  | _ => rfl

/-- The fields that are there, as the members of an object. -/
def present (tag message author : Option String) : List (String × String) :=
  (tag.map (Prod.mk "type")).toList ++ (message.map (Prod.mk "message")).toList ++
    (author.map (Prod.mk "user_id")).toList

theorem nodup_present (tag message author : Option String) :
    (((present tag message author).map textMember).map Prod.fst).Nodup := by
  cases tag <;> cases message <;> cases author <;> simp [present, textMember]

theorem last?_present (tag message author : Option String) :
    last? "type" ((present tag message author).map textMember) = tag.map .text ∧
      last? "message" ((present tag message author).map textMember) = message.map .text ∧
      last? "user_id" ((present tag message author).map textMember) = author.map .text := by
  cases tag <;> cases message <;> cases author <;> simp [present, textMember, last?]

theorem decode_of_present {tag message author : Option String} {ms : List (String × String)}
    (hPresent : ms.Perm (present tag message author)) {raw : String}
    (h : WritesObject raw (ms.map textMember)) : decode raw = some ⟨tag, message, author⟩ := by
  have hPerm : ((present tag message author).map textMember).Perm (ms.map textMember) :=
    hPresent.symm.map _
  have hNames := nodup_present tag message author
  obtain ⟨hTag, hMessage, hAuthor⟩ := last?_present tag message author
  rw [decode_of_object h, ← Json.last?_perm hNames hPerm, ← Json.last?_perm hNames hPerm,
    ← Json.last?_perm hNames hPerm, hTag, hMessage, hAuthor]
  cases tag <;> cases message <;> cases author <;> rfl

/-- Blanks between tokens make no difference. -/
theorem decode_blanks {before blanks after : String} {ts us : List Json.Token} {v : Value}
    (hBefore : Json.Token.Spelled before.toList ts) (hAfter : Json.Token.Spelled after.toList us)
    (hValue : Json.Derives Json.ReadState.maxDepth (ts ++ us) v)
    (hBlanks : ∀ c ∈ blanks.toList, Json.Token.isSpace c) :
    decode (before ++ blanks ++ after) = decode (before ++ after) := by
  have hWith : Writes (before ++ blanks ++ after) v := by
    refine ⟨ts ++ us, ?_, hValue⟩
    rw [String.toList_append, String.toList_append, List.append_assoc]
    exact hBefore.append ((Json.Token.Spelled.blanks hBlanks).append hAfter)
  have hWithout : Writes (before ++ after) v :=
    ⟨ts ++ us, String.toList_append ▸ hBefore.append hAfter, hValue⟩
  rw [decode_of_writes hWith, decode_of_writes hWithout]

/-- **What an envelope is decoded to.** A text is decoded unless it is not JSON, and JSON that is no
object has no field. Of an object the tag is the last member of its name if that is a string; the
message and the author are their last members, a string as it is and other values but `null` by
their compact text. No edit of other members, no new order, no earlier duplicate and no blank
between tokens changes the result. Any three optional strings come back from the compact text of the
object with those that are there, in whatever order, and from every other text that writes it. -/
theorem decode_fields :
    (∀ raw, decode raw = none ↔ ∀ v, ¬ Writes raw v) ∧
      (∀ raw v, Writes raw v → (∀ ms, ¬ WritesObject raw ms) → decode raw = some {}) ∧
      (∀ raw ms, WritesObject raw ms → ∃ e, decode raw = some e ∧
        (∀ s, e.tag = some s ↔ last? "type" ms = some (.text s)) ∧
        ReadsAs e.message (last? "message" ms) ∧ ReadsAs e.author (last? "user_id" ms)) ∧
      (∀ raw raw' ms ms', WritesObject raw ms → WritesObject raw' ms' →
        Relation.ReflTransGen Edit ms ms' ∨ (∀ name ∈ fieldNames, last? name ms = last? name ms') →
          decode raw' = decode raw) ∧
      (∀ (before blanks after : String) (ts us : List Json.Token) (v : Value),
        Json.Token.Spelled before.toList ts → Json.Token.Spelled after.toList us →
          Json.Derives Json.ReadState.maxDepth (ts ++ us) v →
            (∀ c ∈ blanks.toList, Json.Token.isSpace c) →
              decode (before ++ blanks ++ after) = decode (before ++ after)) ∧
      ∀ (tag message author : Option String) (ms : List (String × String)),
        ms.Perm (present tag message author) →
          decode (Value.object (ms.map textMember)).render = some ⟨tag, message, author⟩ ∧
            ∀ raw, WritesObject raw (ms.map textMember) →
              decode raw = some ⟨tag, message, author⟩ := by
  refine ⟨decode_eq_none_iff, fun raw v => decode_of_no_object, fun raw ms h => ?_,
    fun raw raw' ms ms' h h' hEdits => ?_, fun before blanks after ts us v => decode_blanks,
    fun tag message author ms hPresent =>
      ⟨decode_of_present hPresent (Json.writesObject_render ms), fun raw =>
        decode_of_present hPresent⟩⟩
  · exact ⟨_, decode_of_object h, bind_memberTag _, readsAs_memberText _, readsAs_memberText _⟩
  · rcases hEdits with hEdits | hLast
    · exact decode_eq_of_last? h h' fun name => last?_eq_of_edits hEdits
    · exact decode_eq_of_last? h h' hLast

/-- The last of two members counts, a pair of escapes is one character, and a list is kept as
text. -/
example :
    decode "\x7b\"type\":1, \"type\":\"\\ud83d\\ude00\", \"user_id\":[ 1, null ]\x7d" =
      some ⟨some "😀", none, some "[1,null]"⟩ := by
  decide +kernel

end ChatConsole.Envelope
