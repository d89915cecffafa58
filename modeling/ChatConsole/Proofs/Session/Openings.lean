import ChatConsole.Proofs.Session.Lifecycle

/-! # Channels that were found open

The session finds a channel open at the moment at which it handles the event that says so, while the
channel is its own. `opened` asks a list of moments whether there was one such for a channel;
`Traced` ties the phase of a session to the moments that led to it: the session is connected just
when its channel was found open. What counts only from there on, such as the texts sent or the
author of a command, is read off the moments after the first opening.
-/

namespace ChatConsole.Session

/-- Whether the session finds its channel open. -/
def Moment.opens (id : ChannelId) (m : Moment) : Bool :=
  m.act = .handle (.opened id) ∧ m.session.core.activeId? = some id

/-- Whether a channel was found open at one of these moments. -/
def opened (id : ChannelId) (ms : List Moment) : Bool := ms.any (·.opens id)

theorem opened_snoc (id : ChannelId) (ms : List Moment) (m : Moment) :
    opened id (ms ++ [m]) = (opened id ms || m.opens id) := by
  simp [opened]

/-- What is read off the moments since a channel was found open grows by what the next moment
gives, if the channel was found open before it. -/
theorem filterMap_since_opened_snoc {α : Type} {f : Moment → Option α} {id : ChannelId}
    (hf : ∀ m : Moment, m.opens id → f m = none) (ms : List Moment) (m : Moment) :
    ((ms ++ [m]).dropWhile (!·.opens id)).filterMap f =
      (ms.dropWhile (!·.opens id)).filterMap f ++
        if opened id ms then (f m).toList else [] := by
  unfold opened
  induction ms with
  | nil =>
    by_cases hOpens : m.opens id
    · simp [hOpens, hf m hOpens]
    · simp [hOpens]
  | cons m' ms ih =>
    by_cases hOpens : m'.opens id
    · rw [List.cons_append, List.dropWhile_cons_of_neg (by simp [hOpens]),
        List.dropWhile_cons_of_neg (by simp [hOpens]), List.any_cons, hOpens, Bool.true_or,
        if_pos rfl, ← List.cons_append, List.filterMap_append]
      rfl
    · rw [List.cons_append, List.dropWhile_cons_of_pos (by simp [hOpens]),
        List.dropWhile_cons_of_pos (by simp [hOpens]), ih, List.any_cons,
        Bool.eq_false_iff.mpr hOpens, Bool.false_or]

/-- How the channel of a session stands to the moments that led to it. -/
structure Traced (s : Session) (ms : List Moment) : Prop where
  lifecycle : s.core.Lifecycle
  past : ∀ id, opened id ms → id.number < s.core.nextId.number
  connected_iff : s.core.isConnected ↔ ∃ id, s.core.activeId? = some id ∧ opened id ms

theorem traced_start (settings : Settings) (role : Role) (gateway : Gateway) :
    Traced (start settings role gateway) [] where
  lifecycle := Core.lifecycle_fresh role
  past := by
    intro id h
    cases h
  connected_iff := by
    constructor
    · intro h
      cases h
    · rintro ⟨id, h, -⟩
      cases h

namespace Traced

variable {s : Session} {ms : List Moment} {now : Time.Instant} {a : Act}

theorem queue (h : Traced s ms) (queue : List ChannelEvent) : Traced { s with queue } ms :=
  ⟨h.lifecycle, h.past, h.connected_iff⟩

/-- The number for the next channel was not yet found open. -/
theorem not_opened_next (h : Traced s ms) : ¬ opened s.core.nextId ms :=
  fun hOpened => Nat.lt_irrefl _ (h.past s.core.nextId hOpened)

theorem past_act (h : Traced s ms) (id : ChannelId) (hOpened : opened id (ms ++ [⟨s, now, a⟩])) :
    id.number < (s.act now a).core.nextId.number := by
  refine Nat.lt_of_lt_of_le ?_ (act_nextId_le now s a)
  rw [opened_snoc, Bool.or_eq_true] at hOpened
  rcases hOpened with hBefore | hHere
  · exact h.past id hBefore
  · obtain ⟨held, hHeld, rfl⟩ := Option.map_eq_some_iff.mp (of_decide_eq_true hHere).2
    exact h.lifecycle.id_lt held hHeld

theorem connected_iff_act (h : Traced s ms) (hPump : a ≠ .pump) :
    (s.act now a).core.isConnected ↔
      ∃ id, (s.act now a).core.activeId? = some id ∧ opened id (ms ++ [⟨s, now, a⟩]) := by
  have hPhase : ∀ c : Core, c.isConnected ↔ c.phase = .connected := fun c => beq_iff_eq
  simp only [opened_snoc, Bool.or_eq_true]
  rcases act_channel now h.lifecycle hPump with
    ⟨hOpens, hNot, hFresh⟩ | ⟨id, rfl, hActive, hConnected, hChannel⟩ | ⟨hNot, hNone⟩ |
    ⟨hSame, hChannel, hOther⟩
  · refine iff_of_false (fun hConnected => hNot ((hPhase _).mp hConnected)) ?_
    rintro ⟨id, hId, hBefore | hHere⟩
    · exact h.not_opened_next (hFresh id hId ▸ hBefore)
    · have hHandle : a = .handle (.opened id) := (of_decide_eq_true hHere).1
      rw [hHandle] at hOpens
      cases hOpens
  · refine iff_of_true ((hPhase _).mpr hConnected) ⟨id, ?_, Or.inr (decide_eq_true ⟨rfl, hActive⟩)⟩
    rw [Core.activeId?, hChannel]
    exact hActive
  · refine iff_of_false (fun hConnected => ?_) ?_
    · rw [hPhase, hNot] at hConnected
      cases hConnected
    · rintro ⟨id, hId, -⟩
      rw [Core.activeId?, hNone] at hId
      cases hId
  · have hActive : (s.act now a).core.activeId? = s.core.activeId? := by
      rw [Core.activeId?, hChannel, Core.activeId?]
    rw [hPhase, hSame, ← hPhase, h.connected_iff, hActive]
    refine exists_congr fun id => and_congr_right fun hId => (or_iff_left ?_).symm
    exact fun hHere => hOther id hId (of_decide_eq_true hHere).1

theorem act (h : Traced s ms) (hPump : a ≠ .pump) :
    Traced (s.act now a) (ms ++ [⟨s, now, a⟩]) where
  lifecycle := act_lifecycle now s a hPump h.lifecycle
  past := h.past_act
  connected_iff := h.connected_iff_act hPump

end Traced

end ChatConsole.Session
