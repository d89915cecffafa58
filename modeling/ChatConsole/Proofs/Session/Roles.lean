import ChatConsole.Proofs.Gateway.OpenRequests
import ChatConsole.Proofs.Session.Reconnects
import ChatConsole.Proofs.Session.Requests

/-! # The role of a channel

A session knows of roles in several places: the one that is selected, the one that its channel was
opened with, the one that a reconnect waits for, and the one in the URL of a request. `selected`
reads the first of them off the moments of a run. Every request is for the role selected at its
moment, whoever asks for the channel; and from there on the channel keeps the role of its request
until it ends, while another role may be selected for the next one.
-/

namespace ChatConsole.Session

/-- The role that an act selects, if it selects one. -/
def Act.selects? : Act → Option Role
  | .connect role => some role
  | .changeRole role _ => some role
  | _ => none

/-- The role selected last, after `first` at the start. -/
def selected (first : Role) (ms : List Moment) : Role :=
  ((ms.filterMap (·.act.selects?)).getLast?).getD first

theorem selected_snoc (first : Role) (ms : List Moment) (m : Moment) :
    selected first (ms ++ [m]) = m.act.selects?.getD (selected first ms) := by
  unfold selected
  cases hSelects : m.act.selects? with
  | none => simp [hSelects]
  | some role => simp [hSelects]

namespace Moment

/-- The request that is put to the gateway. -/
def request? (m : Moment) : Option OpenRequest := m.attempt?.bind (·.request.toOption)

theorem request?_eq_some {m : Moment} {request : OpenRequest} :
    m.request? = some request ↔ ∃ role, m.act.opens? m.session = some role ∧
      OpenRequest.make m.session.core.nextId m.session.settings.endpoint role = .ok request := by
  obtain ⟨s, now, a⟩ := m
  unfold request? attempt?
  cases hOpens : a.opens? s with
  | none => simp
  | some role =>
    simp only [Option.map_some, Option.bind_some, request_vacate, Option.some.injEq,
      exists_eq_left']
    cases OpenRequest.make s.core.nextId s.settings.endpoint role <;> simp [Except.toOption]

theorem channel_of_request? {m : Moment} {request : OpenRequest} (h : m.request? = some request) :
    request.channel = m.session.core.nextId := by
  obtain ⟨role, -, hMake⟩ := request?_eq_some.mp h
  exact (Core.make_eq_ok hMake).1

end Moment

/-- The requests that were put to the gateway, oldest first. -/
def asked (ms : List Moment) : List OpenRequest := ms.filterMap Moment.request?

theorem mem_asked_snoc {request : OpenRequest} {ms : List Moment} {m : Moment} :
    request ∈ asked (ms ++ [m]) ↔ request ∈ asked ms ∨ m.request? = some request := by
  simp [asked, List.filterMap_append, List.mem_filterMap]

/-! ## What an act does to the roles -/

namespace Core

theorem openNext_role (c : Core) (w : Conditions) (role : Role) :
    (c.openNext w role).1.role = role := by
  obtain ⟨channel, phase, hCore⟩ := c.openNext_core w role
  rw [hCore]

theorem onEvent_role (c : Core) (e : ChannelEvent) : (c.onEvent e).1.role = c.role := by
  obtain ⟨identity, phase, channel, hCore⟩ := c.onEvent_core e
  rw [hCore]

end Core

variable {s : Session} {a : Act}

/-- Whoever asks for a channel, it is for the role that is selected then. -/
theorem role_of_opens (h : s.core.Lifecycle) {role : Role} (hOpens : a.opens? s = some role) :
    role = a.selects?.getD s.core.role := by
  cases a with
  | connect r => exact (Option.some.inj hOpens).symm
  | connectCurrent => exact (Option.some.inj hOpens).symm
  | tick reading =>
    obtain ⟨r, hPending, -, rfl⟩ := Core.dueRole?_eq_some.mp hOpens
    exact (h.of_pending r hPending).2.2
  | _ => cases hOpens

theorem core_of_opens (now : Time.Instant) (h : s.core.Lifecycle) {role : Role}
    (hOpens : a.opens? s = some role) :
    (s.act now a).core = (s.core.idle.openNext s.conditions role).1 := by
  rw [act_of_opens hOpens, openNext, advance_core, vacate, advance_core, advance_conditions,
    h.vacate_fst]

theorem act_role (now : Time.Instant) (h : s.core.Lifecycle) (hPump : a ≠ .pump) :
    (s.act now a).core.role = a.selects?.getD s.core.role := by
  cases hOpens : a.opens? s with
  | some role => rw [core_of_opens now h hOpens, Core.openNext_role, role_of_opens h hOpens]
  | none =>
    have hBecomes := act_becomes now h hPump
    generalize (s.act now a).core = c at hBecomes ⊢
    cases hBecomes with
    | attempted w hSome => rw [hOpens] at hSome; cases hSome
    | closed => rfl
    | scheduled hAgain => rfl
    | selected hNot hNone => rfl
    | handled e => exact s.core.onEvent_role e
    | kept hRole hEvent =>
      cases a with
      | connect role => cases hOpens
      | changeRole role changedAt => exact absurd rfl (hRole role changedAt)
      | _ => rfl

/-- A request that the gateway accepts begins a channel of its number and role; after one that it
refuses there is none. -/
theorem channel_of_request (now : Time.Instant) (h : s.core.Lifecycle) {request : OpenRequest}
    (hRequest : Moment.request? ⟨s, now, a⟩ = some request) :
    (s.act now a).core.channel =
      s.gateway.answer.toOption.map fun link => ⟨request.channel, request.role, link⟩ := by
  obtain ⟨role, hOpens, hMake⟩ := Moment.request?_eq_some.mp hRequest
  have hMade : OpenRequest.make s.core.idle.nextId s.conditions.endpoint role = .ok request := hMake
  obtain ⟨hId, hRole⟩ := Core.make_eq_ok hMade
  rw [core_of_opens now h hOpens]
  cases hAnswer : s.gateway.answer with
  | error e =>
    rw [Core.openNext_of_refused (w := s.conditions) hMade hAnswer]
    rfl
  | ok link =>
    rw [Core.openNext_of_accepted (w := s.conditions) hMade hAnswer, hRole, hId]
    rfl

/-- After an act the channel is what it was, or there is none, or it is that of the request. -/
theorem act_held (now : Time.Instant) (h : s.core.Lifecycle) (hPump : a ≠ .pump) :
    (s.act now a).core.channel = s.core.channel ∨ (s.act now a).core.channel = none ∨
      ∃ request link, Moment.request? ⟨s, now, a⟩ = some request ∧
        (s.act now a).core.channel = some ⟨request.channel, request.role, link⟩ := by
  cases hOpens : a.opens? s with
  | none =>
    rcases act_channel now h hPump with
      ⟨hSome, -⟩ | ⟨-, -, -, -, hSame⟩ | ⟨-, hNone⟩ | ⟨-, hSame, -⟩
    · rw [hOpens] at hSome
      cases hSome
    · exact Or.inl hSame
    · exact Or.inr (Or.inl hNone)
    · exact Or.inl hSame
  | some role =>
    cases hMake : OpenRequest.make s.core.nextId s.settings.endpoint role with
    | error e =>
      refine Or.inr (Or.inl ?_)
      rw [core_of_opens now h hOpens,
        Core.openNext_of_rejected (c := s.core.idle) (w := s.conditions) hMake]
      rfl
    | ok request =>
      have hRequest : Moment.request? ⟨s, now, a⟩ = some request :=
        Moment.request?_eq_some.mpr ⟨role, hOpens, hMake⟩
      rw [channel_of_request now h hRequest]
      cases s.gateway.answer with
      | error e => exact Or.inr (Or.inl rfl)
      | ok link => exact Or.inr (Or.inr ⟨request, link, hRequest, rfl⟩)

/-! ## Whole runs -/

/-- The request at a moment is for the role selected then, and says so in its URL. If the gateway
accepts it, its channel begins there. -/
structure Moment.Asks (m : Moment) (selected : Role) (request : OpenRequest) : Prop where
  role_eq : request.role = selected
  observedRole_eq : request.observedRole = some selected.tag
  begins : m.session.gateway.answer.isOk →
    (m.session.act m.now m.act).core.activeId? = some request.channel

/-- How the roles of a session stand to the moments that led to it. -/
structure InRole (first : Role) (s : Session) (ms : List Moment) : Prop where
  lifecycle : s.core.Lifecycle
  role_eq : s.core.role = selected first ms
  past : ∀ request ∈ asked ms, request.channel.number < s.core.nextId.number
  of_held : ∀ held, s.core.channel = some held →
    (∃ request ∈ asked ms, request.channel = held.id) ∧
      ∀ request ∈ asked ms, request.channel = held.id → request.role = held.role

namespace InRole

variable {first : Role} {ms : List Moment} {now : Time.Instant}

theorem start (settings : Settings) (first : Role) (gateway : Gateway) :
    InRole first (start settings first gateway) [] where
  lifecycle := Core.lifecycle_fresh first
  role_eq := rfl
  past := by simp [asked]
  of_held := by
    intro held h
    cases h

theorem queue (h : InRole first s ms) (queue : List ChannelEvent) :
    InRole first { s with queue } ms :=
  ⟨h.lifecycle, h.role_eq, h.past, h.of_held⟩

theorem asks (h : InRole first s ms) {request : OpenRequest}
    (hRequest : Moment.request? ⟨s, now, a⟩ = some request) :
    Moment.Asks ⟨s, now, a⟩ (selected first (ms ++ [⟨s, now, a⟩])) request := by
  obtain ⟨role, hOpens, hMake⟩ := Moment.request?_eq_some.mp hRequest
  have hRole : role = selected first (ms ++ [⟨s, now, a⟩]) := by
    rw [selected_snoc, ← h.role_eq]
    exact role_of_opens h.lifecycle hOpens
  refine ⟨(Core.make_eq_ok hMake).2.trans hRole, ?_, fun hAccepted => ?_⟩
  · rw [← hRole]
    exact OpenRequest.observedRole_of_make hMake
  · rw [Core.activeId?, channel_of_request now h.lifecycle hRequest]
    cases hAnswer : s.gateway.answer with
    | error e =>
      rw [hAnswer] at hAccepted
      cases hAccepted
    | ok link => rfl

theorem past_act (h : InRole first s ms) {request : OpenRequest}
    (hAsked : request ∈ asked (ms ++ [⟨s, now, a⟩])) :
    request.channel.number < (s.act now a).core.nextId.number := by
  rcases mem_asked_snoc.mp hAsked with hBefore | hHere
  · exact Nat.lt_of_lt_of_le (h.past request hBefore) (act_nextId_le now s a)
  · obtain ⟨role, hOpens, -⟩ := Moment.request?_eq_some.mp hHere
    rw [Moment.channel_of_request? hHere, core_of_opens now h.lifecycle hOpens,
      Core.openNext_nextId]
    exact Nat.lt_succ_self _

/-- No other request is made for the channel that is held. -/
theorem asked_of_held (h : InRole first s ms) {held : Held} (hHeld : s.core.channel = some held)
    {request : OpenRequest} (hAsked : request ∈ asked (ms ++ [⟨s, now, a⟩]))
    (hId : request.channel = held.id) : request ∈ asked ms := by
  rcases mem_asked_snoc.mp hAsked with hBefore | hHere
  · exact hBefore
  · have hLess := h.lifecycle.id_lt held hHeld
    rw [← hId, Moment.channel_of_request? hHere] at hLess
    exact absurd hLess (Nat.lt_irrefl _)

theorem of_held_act (h : InRole first s ms) (hPump : a ≠ .pump) {held : Held}
    (hHeld : (s.act now a).core.channel = some held) :
    (∃ request ∈ asked (ms ++ [⟨s, now, a⟩]), request.channel = held.id) ∧
      ∀ request ∈ asked (ms ++ [⟨s, now, a⟩]), request.channel = held.id →
        request.role = held.role := by
  rcases act_held now h.lifecycle hPump with hSame | hNone | ⟨request, link, hRequest, hNew⟩
  · rw [hSame] at hHeld
    obtain ⟨⟨request, hAsked, hId⟩, hRole⟩ := h.of_held held hHeld
    refine ⟨⟨request, mem_asked_snoc.mpr (Or.inl hAsked), hId⟩, fun other hOther hOtherId => ?_⟩
    exact hRole other (h.asked_of_held hHeld hOther hOtherId) hOtherId
  · rw [hNone] at hHeld
    cases hHeld
  · obtain rfl := Option.some.inj (hNew.symm.trans hHeld)
    refine ⟨⟨request, mem_asked_snoc.mpr (Or.inr hRequest), rfl⟩, fun other hOther hId => ?_⟩
    rcases mem_asked_snoc.mp hOther with hBefore | hHere
    · -- the number of the new channel was not used before
      have hLess := h.past other hBefore
      rw [hId, Moment.channel_of_request? hRequest] at hLess
      exact absurd hLess (Nat.lt_irrefl _)
    · rw [Option.some.inj (hHere.symm.trans hRequest)]

theorem act (h : InRole first s ms) (hPump : a ≠ .pump) :
    InRole first (s.act now a) (ms ++ [⟨s, now, a⟩]) where
  lifecycle := act_lifecycle now s a hPump h.lifecycle
  role_eq := by rw [act_role now h.lifecycle hPump, selected_snoc, h.role_eq]
  past := fun _ hAsked => h.past_act hAsked
  of_held := fun _ hHeld => h.of_held_act hPump hHeld

end InRole

/-- What the roles of a session are after these moments. The channel held is that of a request,
whose role is the active one; without a channel that is the role selected. -/
structure KeepsRole (first : Role) (s : Session) (ms : List Moment) : Prop where
  role_eq : s.core.role = selected first ms
  exists_asked : ∀ id, s.core.activeId? = some id → ∃ request ∈ asked ms, request.channel = id
  activeRole_of_asked : ∀ request ∈ asked ms, s.core.activeId? = some request.channel →
    s.activeRole = request.role
  activeRole_of_none : s.core.activeId? = none → s.activeRole = s.core.role

theorem activeRole_of_held {held : Held} (h : s.core.channel = some held) :
    s.activeRole = held.role := by
  rw [activeRole, Core.activeRole, h]
  rfl

theorem InRole.keepsRole {first : Role} {ms : List Moment} (h : InRole first s ms) :
    KeepsRole first s ms where
  role_eq := h.role_eq
  exists_asked := by
    intro id hActive
    obtain ⟨held, hHeld, rfl⟩ := Option.map_eq_some_iff.mp hActive
    exact (h.of_held held hHeld).1
  activeRole_of_asked := by
    intro request hAsked hActive
    obtain ⟨held, hHeld, hId⟩ := Option.map_eq_some_iff.mp hActive
    rw [activeRole_of_held hHeld, (h.of_held held hHeld).2 request hAsked hId.symm]
  activeRole_of_none := by
    intro hActive
    rw [activeRole, Core.activeRole, Option.map_eq_none_iff.mp hActive]
    rfl

/-- The gateway has lines for no other requests of a run than those put to it. -/
theorem mem_asked_of_mem_requests {acts : List Timed} {request : OpenRequest}
    (h : request ∈ (s.run acts).gateway.requests) :
    request ∈ s.gateway.requests ∨ request ∈ asked (s.moments acts) := by
  rw [requests_run, attempts_eq, List.filterMap_filterMap, List.mem_append] at h
  refine h.imp_right fun hAccepted => ?_
  obtain ⟨m, hMem, hSome⟩ := List.mem_filterMap.mp hAccepted
  refine List.mem_filterMap.mpr ⟨m, hMem, ?_⟩
  obtain ⟨attempt, hAttempt, hAccepts⟩ := Option.bind_eq_some_iff.mp hSome
  rw [Moment.request?, hAttempt, Option.bind_some]
  unfold Attempt.accepted? at hAccepts
  split at hAccepts
  · next request' hRequest _ =>
    rw [hRequest, ← hAccepts]
    rfl
  · cases hAccepts

/-- **The role of a channel is fixed.** Every request of a run is for the role selected last, in its
URL too, and the channel that it begins keeps this role for as long as it is held, at every moment
of the run and at its end. -/
theorem roles_of_run (settings : Settings) (first : Role) (gateway : Gateway) (acts : List Timed) :
    let s₀ := start settings first gateway
    (∀ before m after, s₀.moments acts = before ++ m :: after →
      KeepsRole first m.session before ∧
        ∀ request, m.request? = some request → m.Asks (selected first (before ++ [m])) request) ∧
    KeepsRole first (s₀.run acts) (s₀.moments acts) ∧
    ∀ request ∈ (s₀.run acts).gateway.requests,
      request ∈ gateway.requests ∨ request ∈ asked (s₀.moments acts) := by
  intro s₀
  have hQueue : ∀ s ms queue, InRole first s ms → InRole first { s with queue } ms :=
    fun _ _ queue h => h.queue queue
  have hAct : ∀ now s ms a, a ≠ .pump → True → InRole first s ms →
      InRole first (s.act now a) (ms ++ [⟨s, now, a⟩]) :=
    fun _ _ _ _ hPump _ h => h.act hPump
  refine ⟨fun before m after hSplit => ?_, ?_, fun request h => mem_asked_of_mem_requests h⟩
  · have hMoment : InRole first m.session before :=
      moments_keep (A := fun _ => True) (fun _ => trivial) hQueue hAct (fun _ _ => trivial)
        (InRole.start settings first gateway) hSplit
    exact ⟨hMoment.keepsRole, fun request hRequest => hMoment.asks hRequest⟩
  · have hEnd : InRole first (s₀.run acts) ([] ++ s₀.moments acts) :=
      run_keeps_moments (A := fun _ => True) (fun _ => trivial) hQueue hAct acts
        (fun _ _ => trivial) s₀ [] (InRole.start settings first gateway)
    exact hEnd.keepsRole

/-- A role that is selected while the channel is being opened is for the next one. -/
example :
    let acts : List Timed := [(.zero, .connectCurrent), (.zero, .changeRole .manager .zero)]
    let s := (start { endpoint := "ws://[::1]" } .client {}).run acts
    let t := s.run [(.zero, .connectCurrent)]
    s.activeRole = .client ∧ s.core.role = .manager ∧ t.activeRole = .manager := by
  decide +kernel

end ChatConsole.Session
