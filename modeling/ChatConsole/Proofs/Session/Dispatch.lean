import ChatConsole.Proofs.Session.Identity
import ChatConsole.Proofs.Session.Inbound
import ChatConsole.Proofs.Session.Retention

/-! # What becomes of a payload

A payload that is not JSON is dropped. Any other one leaves exactly one entry: its own, when its tag
is the name of a category; the remark that the transcript was emptied, when it asks for that; and
otherwise a remark that holds the payload as it came. Nothing of it is lost on the way, whatever its
members are, and nothing but the identity of the core can change.
-/

namespace ChatConsole

/-! ## Tags -/

namespace Envelope

/-- The categories are known by their names. -/
theorem categoryOf_messageTag (e : Envelope) (category : Category) :
    Session.Core.categoryOf e.messageTag = some category ↔ e.tag = some category.name := by
  unfold messageTag
  cases e.tag with
  | none => simp [Session.Core.categoryOf]
  | some tag =>
    simp only [Option.map_some, Option.getD_some, Option.some.injEq]
    unfold MessageTag.ofWire
    split <;> cases category <;> simp_all [Session.Core.categoryOf, Category.name]

theorem messageTag_eq_clearChat_iff (e : Envelope) :
    e.messageTag = .clearChat ↔ e.tag = some "clear_chat" := by
  unfold messageTag
  cases e.tag with
  | none => simp
  | some tag =>
    simp only [Option.map_some, Option.getD_some, Option.some.injEq]
    unfold MessageTag.ofWire
    split <;> simp_all

/-- A member that is absent or `null` gives no text. -/
theorem bind_memberText_eq_none {v? : Option Json.Value} (h : v? = none ∨ v? = some .null) :
    v?.bind memberText = none := by
  rcases h with rfl | rfl <;> rfl

end Envelope

theorem Retained.entries_append_clear (log : Retained α) (entry : α) :
    (log.clear.append entry).entries = [entry] := by
  have hRoom : [entry].length - log.limit = 0 := Nat.sub_eq_zero_of_le log.limit_pos
  show [entry].drop ([entry].length - log.limit) = [entry]
  rw [hRoom, List.drop_zero]

namespace Session

/-! ## The step of a payload -/

namespace Core

open Effect (say remark)

variable {c : Core} {raw : String} {e : Envelope}

theorem onMessage_of_undecodable (h : Envelope.decode raw = none) :
    c.onMessage raw = (c, [say .debug "dropping undecodable payload" [("raw", raw)]]) := by
  simp only [onMessage, h]

/-- The entry of a category comes last; before it, the user may be noted. -/
theorem onMessage_of_category (h : Envelope.decode raw = some e) {category : Category}
    (hTag : e.tag = some category.name) :
    ∃ naming : List Effect, (∀ effect ∈ naming, ∃ n, effect = .note n) ∧
      (c.onMessage raw).2 = naming ++ [.entry category e.origin e.body] := by
  simp only [onMessage, h, (e.categoryOf_messageTag category).mpr hTag]
  refine ⟨_, ?_, rfl⟩
  intro effect hMem
  split at hMem
  · unfold adoptIdentity at hMem
    split at hMem
    · exact ⟨_, List.mem_singleton.mp hMem⟩
    · cases hMem
  · cases hMem

theorem onMessage_of_clear (h : Envelope.decode raw = some e) (hTag : e.tag = some "clear_chat") :
    c.onMessage raw = (c, [.wipe, remark .system "Transcript cleared."]) := by
  have hClear := e.messageTag_eq_clearChat_iff.mpr hTag
  simp only [onMessage, h, hClear, categoryOf, if_pos]

theorem onMessage_of_unknown (h : Envelope.decode raw = some e)
    (hOther : ∀ category : Category, e.tag ≠ some category.name)
    (hKeep : e.tag ≠ some "clear_chat") :
    c.onMessage raw = (c, [remark .system ("Unknown message: " ++ raw)]) := by
  have hNone : categoryOf e.messageTag = none := by
    refine Option.eq_none_iff_forall_ne_some.mpr fun category hCategory => ?_
    exact hOther category ((e.categoryOf_messageTag category).mp hCategory)
  have hClear := mt e.messageTag_eq_clearChat_iff.mp hKeep
  simp only [onMessage, h, hNone, if_neg hClear]

end Core

/-! ## The transcript -/

/-- The transcript of `t` is that of `s` with one more entry, for which only the oldest ones beyond
the limit make room. -/
def Gains (s t : Session) (entry : Entry) : Prop :=
  t.transcript.entries = lastOf s.transcript.limit (s.transcript.entries ++ [entry])

theorem perform_transcript_limit (now : Time.Instant) (s : Session) (e : Effect) :
    (s.perform now e).transcript.limit = s.transcript.limit := by
  by_cases hWipe : e = .wipe
  · rw [hWipe]
    rfl
  · rw [perform_transcript now s hWipe, Retained.limit_appendAny]

theorem gains_advance (now : Time.Instant) (s : Session) (c : Core) {notes : List Effect}
    (h : ∀ effect ∈ notes, ∃ n, effect = .note n) (category : Category) (origin body : String) :
    Gains s (s.advance now (c, notes ++ [.entry category origin body]))
      ⟨category, origin, body, now⟩ := by
  have hNotes : ∀ (notes : List Effect) (s : Session), (∀ effect ∈ notes, ∃ n, effect = .note n) →
      (notes.foldl (perform now) s).transcript = s.transcript := by
    intro notes
    induction notes with
    | nil => exact fun _ _ => rfl
    | cons effect notes ih =>
      intro s h
      obtain ⟨n, rfl⟩ := h effect List.mem_cons_self
      exact ih _ fun effect hMem => h effect (List.mem_cons_of_mem _ hMem)
  unfold Gains advance
  rw [List.foldl_append]
  show ((notes.foldl (perform now) { s with core := c }).addEntry now _).transcript.entries = _
  rw [addEntry_transcript, hNotes notes _ h]
  rfl

theorem gains_of_unknown (now : Time.Instant) (s : Session) {raw : String} {e : Envelope}
    (h : Envelope.decode raw = some e) (hOther : ∀ category : Category, e.tag ≠ some category.name)
    (hKeep : e.tag ≠ some "clear_chat") :
    Gains s (s.call now (.message raw))
      ⟨.system, systemOrigin, "Unknown message: " ++ raw, now⟩ := by
  show Gains s (s.advance now (s.core.onMessage raw)) _
  rw [Core.onMessage_of_unknown h hOther hKeep]
  exact @gains_advance now s s.core [] (List.forall_mem_nil _) _ _ _

/-! ## The identity -/

/-- Who the user is changes at most once, and only to the author of a command that comes back. -/
theorem echo_of_identity_ne (c : Core) (raw : String)
    (h : (c.onMessage raw).1.identity ≠ c.identity) :
    c.identity = none ∧ c.isConnected ∧ ∃ e, Envelope.decode raw = some e ∧
      e.tag = some "command_sent" ∧ e.origin ≠ systemOrigin ∧
      (c.onMessage raw).1.identity = some e.origin := by
  rw [Core.onMessage_identity] at h ⊢
  by_cases hConnected : c.isConnected
  · rw [if_pos hConnected] at h ⊢
    cases hIdentity : c.identity with
    | some u =>
      rw [hIdentity] at h
      exact absurd rfl h
    | none =>
      rw [hIdentity, Option.none_or] at h
      obtain ⟨u, hu⟩ := Option.ne_none_iff_exists'.mp h
      obtain ⟨e, he, rfl⟩ := Option.map_eq_some_iff.mp hu
      obtain ⟨hDecode, hEcho⟩ := Option.filter_eq_some_iff.mp he
      obtain ⟨hTag, hOrigin⟩ := of_decide_eq_true hEcho
      exact ⟨rfl, hConnected, e, hDecode, hTag, hOrigin, by rw [Option.none_or, hu]⟩
  · rw [if_neg hConnected] at h
    exact absurd rfl h

/-! ## Payloads -/

/-- **What becomes of a payload.** One that is not JSON changes nothing but the journal. The name of
a category as the tag makes it an entry of that category with the author and the body of the
envelope, where an absent author, or `null`, is the gateway and an absent body is empty; the tag
`clear_chat` leaves the remark on it as the only entry; and any other tag, or none, or JSON that is
no object, makes it a remark that ends with the payload as it came. Of the core at most the identity
changes, from nobody to the author of a command that was sent back while connected. -/
theorem dispatch_of_message (now : Time.Instant) (s : Session) (raw : String) :
    let t := s.call now (.message raw)
    let remark : Entry := ⟨.system, "system", "Unknown message: " ++ raw, now⟩
    (Envelope.decode raw = none → { t with records := s.records } = s) ∧
      (∀ e, Envelope.decode raw = some e →
        (∀ category : Category, e.tag = some category.name →
          Gains s t ⟨category, e.author.getD "system", e.message.getD "", now⟩) ∧
        (e.tag = some "clear_chat" →
          t.transcript.entries = [⟨.system, "system", "Transcript cleared.", now⟩]) ∧
        ((∀ category : Category, e.tag ≠ some category.name) → e.tag ≠ some "clear_chat" →
          Gains s t remark)) ∧
      (∀ v, Json.parse? raw = some v → (∀ members, v ≠ .object members) → Gains s t remark) ∧
      (∀ members e, Json.parse? raw = some (.object members) → Envelope.decode raw = some e →
        (Json.Members.find? "user_id" members = none ∨
          Json.Members.find? "user_id" members = some .null → e.author = none) ∧
        (Json.Members.find? "message" members = none ∨
          Json.Members.find? "message" members = some .null → e.message = none)) ∧
      (t.transcript.limit = s.transcript.limit ∧
        ∃ transcript activity records identity,
          t = { s with transcript, activity, records, core := { s.core with identity } }) ∧
      (t.core.identity ≠ s.core.identity →
        s.core.identity = none ∧ s.core.isConnected ∧ ∃ e, Envelope.decode raw = some e ∧
          e.tag = some "command_sent" ∧ e.origin ≠ "system" ∧ t.core.identity = some e.origin) := by
  intro t remark
  have hStep : t = s.advance now (s.core.onMessage raw) := rfl
  have hCore : t.core = (s.core.onMessage raw).1 := advance_core now s _
  refine ⟨fun hNone => ?_, fun e hDecode => ⟨fun category hTag => ?_, fun hTag => ?_,
    gains_of_unknown now s hDecode⟩, fun v hParse hOther => ?_, fun members e hParse hDecode => ?_,
    ⟨?_, ?_⟩, fun hChanged => ?_⟩
  · rw [hStep, Core.onMessage_of_undecodable hNone]
    rfl
  · obtain ⟨naming, hNotes, hEffects⟩ := Core.onMessage_of_category (c := s.core) hDecode hTag
    rw [hStep, ← Prod.eta (s.core.onMessage raw), hEffects]
    exact gains_advance now s _ hNotes category e.origin e.body
  · rw [hStep, Core.onMessage_of_clear hDecode hTag]
    exact Retained.entries_append_clear s.transcript _
  · have hEmpty : Envelope.ofJson v = {} := by
      cases v with
      | object members => exact absurd rfl (hOther members)
      | _ => rfl
    have hDecode : Envelope.decode raw = some {} := by rw [Envelope.decode, hParse, ← hEmpty]; rfl
    exact gains_of_unknown now s hDecode (fun category => by simp) (by simp)
  · have hEnvelope : e = Envelope.ofJson (.object members) := by
      rw [Envelope.decode, hParse] at hDecode
      exact (Option.some.inj hDecode).symm
    subst hEnvelope
    exact ⟨Envelope.bind_memberText_eq_none, Envelope.bind_memberText_eq_none⟩
  · exact foldl_perform_eq now _ (fun u => u.transcript.limit) (perform_transcript_limit now) _
  · obtain ⟨identity, hIdentity⟩ := s.core.exists_identity_onMessage raw
    obtain ⟨transcript, activity, records, hReached⟩ :=
      advance_of_orders_nil now s (s.core.orders_onMessage raw)
    exact ⟨transcript, activity, records, identity, hIdentity ▸ hReached⟩
  · rw [hCore] at hChanged ⊢
    exact echo_of_identity_ne s.core raw hChanged

/-- The last of two tags counts, and a full transcript gives up its oldest entry. -/
example :
    let raw := "\x7b\"type\":7,\"type\":\"error\",\"user_id\":null\x7d"
    let s := (start { transcriptLimit := 1 } .client {}).calls [(.zero, .message "1")]
    (s.call .zero (.message raw)).transcript.entries.map (fun e => (e.category, e.origin, e.body)) =
      [(.error, "system", "")] := by
  decide +kernel

end Session

end ChatConsole
