import ChatConsole.Proofs.Gateway.Settled
import ChatConsole.Proofs.Session.Openings
import ChatConsole.Proofs.Session.Reconnects
import ChatConsole.Proofs.Session.Requests
import ChatConsole.Proofs.Session.Stale

/-! # Quiet sessions

A session without a pending reconnect that is not connected is unarmed: no change of the role
schedules a reconnect, so no tick opens a channel until somebody asks for one or the session finds
one open. Without a channel there is none to be found open, and the session is quiet: it stays so
and orders nothing at the gateway, whatever else is done to it. Every end of a channel and every
failed attempt leaves a quiet session.
-/

namespace ChatConsole.Session

/-- Neither connected nor about to be again. -/
structure Unarmed (s : Session) : Prop where
  lifecycle : s.core.Lifecycle
  not_connected : ¬ s.core.isConnected
  pending : s.core.pending = none

/-- Unarmed and without a channel. -/
structure Quiet (s : Session) : Prop extends Unarmed s where
  channel : s.core.channel = none

/-! ## Unarmed sessions -/

namespace Unarmed

variable {s : Session}

theorem queue (h : s.Unarmed) (queue : List ChannelEvent) : Unarmed { s with queue } :=
  ⟨h.lifecycle, h.not_connected, h.pending⟩

theorem opens?_eq_none (h : s.Unarmed) {a : Act} (ha : ¬ a.connects) : a.opens? s = none := by
  cases a with
  | connect role => exact absurd rfl ha
  | connectCurrent => exact absurd rfl ha
  | tick reading =>
    show s.core.dueRole? reading = none
    rw [Core.dueRole?, h.pending]
    rfl
  | _ => rfl

theorem not_fires (h : s.Unarmed) (now : Time.Instant) (a : Act) :
    ¬ Moment.fires ⟨s, now, a⟩ := by
  intro hFires
  have hSome := (Moment.pending_of_fires (m := ⟨s, now, a⟩) h.lifecycle hFires).1
  rw [h.pending] at hSome
  cases hSome

theorem act (h : s.Unarmed) (now : Time.Instant) {a : Act} (hPump : a ≠ .pump)
    (hOpened : ∀ id, ¬ Moment.opens id ⟨s, now, a⟩) : (s.act now a).Unarmed where
  lifecycle := act_lifecycle now s a hPump h.lifecycle
  not_connected := by
    have hPhase : ∀ c : Core, c.isConnected ↔ c.phase = .connected := fun c => beq_iff_eq
    rw [hPhase]
    rcases act_channel now h.lifecycle hPump with
      ⟨-, hNot, -⟩ | ⟨id, hHandle, hActive, -⟩ | ⟨hEnded, -⟩ | ⟨hSame, -⟩
    · exact hNot
    · exact absurd (decide_eq_true ⟨hHandle, hActive⟩) (hOpened id)
    · rw [hEnded]
      decide
    · rw [hSame, ← hPhase]
      exact h.not_connected
  pending := by
    rcases act_pending now h.lifecycle hPump with
      ⟨-, hNone⟩ | ⟨_, _, -, hAgain, -⟩ | ⟨-, hNone⟩ | ⟨hSame, -⟩
    · exact hNone
    · rw [h.pending] at hAgain
      exact absurd hAgain (by simp [h.not_connected])
    · exact hNone
    · exact hSame.trans h.pending

/-- An unarmed session opens nothing until it is asked to or finds its channel open. -/
theorem run (h : s.Unarmed) {acts : List Timed} (hActs : ∀ a ∈ acts, ¬ a.2.connects)
    (hOpened : ∀ m ∈ s.moments acts, ∀ id, ¬ m.opens id) :
    (s.run acts).Unarmed ∧ s.attempts acts = [] ∧ ∀ m ∈ s.moments acts, ¬ m.fires := by
  have hAll := run_keeps_moments (A := fun a => ¬ a.connects)
    (P := fun t ms => (∀ m ∈ ms, ∀ id, ¬ m.opens id) →
      t.Unarmed ∧ ∀ m ∈ ms, ¬ m.act.connects ∧ ¬ m.fires)
    (fun _ => Bool.false_ne_true) (fun t ms queue ht hms => ⟨(ht hms).1.queue queue, (ht hms).2⟩)
    (fun now t ms a hPump ha ht hms => by
      obtain ⟨hUnarmed, hBefore⟩ := ht fun m hm => hms m (List.mem_append_left _ hm)
      refine ⟨hUnarmed.act now hPump (hms _ (by simp)), fun m hm => ?_⟩
      rcases List.mem_append.mp hm with hOld | hNew
      · exact hBefore m hOld
      · rw [List.mem_singleton.mp hNew]
        exact ⟨ha, hUnarmed.not_fires now a⟩)
    acts hActs s [] (fun _ => ⟨h, List.forall_mem_nil _⟩) hOpened
  exact ⟨hAll.1, attempts_eq_nil_iff.mpr hAll.2, fun m hm => (hAll.2 m hm).2⟩

end Unarmed

/-! ## Quiet sessions -/

/-- What orders nothing changes none of the gateway's accounts. -/
theorem accounts_act_of_orders_nil (now : Time.Instant) {s : Session} {a : Act} (hPump : a ≠ .pump)
    (h : Moment.orders ⟨s, now, a⟩ = []) :
    (s.act now a).gateway.accounts = s.gateway.accounts := by
  cases hTaken : a.step? s with
  | some step =>
    have hOrders : orders step.2 = [] := by
      rw [Moment.orders, hTaken] at h
      exact h
    rw [act_of_step hTaken, advance_gateway_orders, hOrders]
    rfl
  | none =>
    cases a with
    | emit e => exact congrArg Gateway.accounts (emit_gateway s e)
    | look l => exact Gateway.accounts_eq_of_settled (s.gateway.settled_after l)
    | pump => exact absurd rfl hPump
    | notify text => rfl
    | enqueue e => rfl
    | answer policy running => rfl
    | _ => cases hTaken

namespace Quiet

variable {s : Session}

/-- Under the lifecycle there is nothing else to ask for. -/
theorem of_none (h : s.core.Lifecycle) (hChannel : s.core.channel = none)
    (hPending : s.core.pending = none) : s.Quiet where
  lifecycle := h
  not_connected := fun hConnected => by
    obtain ⟨held, hHeld⟩ := h.channel_of_connected hConnected
    rw [hChannel] at hHeld
    cases hHeld
  pending := hPending
  channel := hChannel

theorem activeId? (h : s.Quiet) : s.core.activeId? = none := by
  rw [Core.activeId?, h.channel]
  rfl

theorem act (h : s.Quiet) (now : Time.Instant) {a : Act} (hPump : a ≠ .pump) (ha : ¬ a.connects) :
    (s.act now a).Quiet where
  toUnarmed := h.toUnarmed.act now hPump fun id hOpens => by
    have hActive := (of_decide_eq_true hOpens).2
    rw [h.activeId?] at hActive
    cases hActive
  channel := by
    rcases act_channel now h.lifecycle hPump with
      ⟨hOpens, -⟩ | ⟨id, -, hActive, -⟩ | ⟨-, hNone⟩ | ⟨-, hSame, -⟩
    · rw [h.toUnarmed.opens?_eq_none ha] at hOpens
      cases hOpens
    · rw [h.activeId?] at hActive
      cases hActive
    · exact hNone
    · exact hSame.trans h.channel

theorem orders (h : s.Quiet) (now : Time.Instant) {a : Act} (ha : ¬ a.connects) :
    Moment.orders ⟨s, now, a⟩ = [] := by
  have hEnding : s.core.ending = [] := by
    rw [Core.ending, h.activeId?]
    rfl
  cases a with
  | connect role => exact absurd rfl ha
  | connectCurrent => exact absurd rfl ha
  | disconnect => exact s.core.orders_disconnect.trans hEnding
  | changeRole role changedAt =>
    refine (s.core.orders_changeRole s.conditions role changedAt).trans ?_
    rw [hEnding, ite_self]
  | tick reading =>
    show Session.orders (s.core.tick s.conditions reading).2 = []
    rw [Core.tick_of_not_due (h.toUnarmed.opens?_eq_none (a := .tick reading) ha)]
    rfl
  | send text =>
    show Session.orders (s.core.sending s.conditions text).effects = []
    rw [Core.sending_of_offline _ _ h.not_connected]
    rfl
  | handle e =>
    refine (s.core.orders_onEvent e).trans (if_neg fun hEnd => ?_)
    rw [h.activeId?] at hEnd
    cases hEnd.1
  | _ => rfl

/-- A quiet session stays so and does nothing at the gateway until it is asked for a channel. -/
theorem run (h : s.Quiet) {acts : List Timed} (hActs : ∀ a ∈ acts, ¬ a.2.connects) :
    (s.run acts).Quiet ∧ s.attempts acts = [] ∧ (s.moments acts).flatMap Moment.orders = [] ∧
      (s.run acts).gateway.accounts = s.gateway.accounts := by
  have hAll := run_keeps_moments (A := fun a => ¬ a.connects)
    (P := fun t ms => t.Quiet ∧ t.gateway.accounts = s.gateway.accounts ∧
      ∀ m ∈ ms, (¬ m.act.connects ∧ ¬ m.fires) ∧ m.orders = [])
    (fun _ => Bool.false_ne_true)
    (fun t ms queue ht => ⟨⟨ht.1.toUnarmed.queue queue, ht.1.channel⟩, ht.2⟩)
    (fun now t ms a hPump ha ht => by
      obtain ⟨hQuiet, hAccounts, hBefore⟩ := ht
      have hOrders := hQuiet.orders now ha
      refine ⟨hQuiet.act now hPump ha,
        (accounts_act_of_orders_nil now hPump hOrders).trans hAccounts, fun m hm => ?_⟩
      rcases List.mem_append.mp hm with hOld | hNew
      · exact hBefore m hOld
      · rw [List.mem_singleton.mp hNew]
        exact ⟨⟨ha, hQuiet.toUnarmed.not_fires now a⟩, hOrders⟩)
    acts hActs s [] ⟨h, rfl, List.forall_mem_nil _⟩
  obtain ⟨hQuiet, hAccounts, hMoments⟩ := hAll
  exact ⟨hQuiet, attempts_eq_nil_iff.mpr fun m hm => (hMoments m hm).1,
    List.flatMap_eq_nil_iff.mpr fun m hm => (hMoments m hm).2, hAccounts⟩

end Quiet

/-! ## What leaves a quiet session -/

variable {s : Session}

theorem quiet_disconnect (h : s.core.Lifecycle) (now : Time.Instant) :
    (s.act now .disconnect).Quiet := by
  have hCore : (s.act now .disconnect).core = s.core.idle :=
    (advance_core now s _).trans h.disconnect_fst
  refine .of_none (act_lifecycle now s .disconnect (by simp) h) ?_ ?_
  · rw [hCore]
    rfl
  · rw [hCore]
    rfl

/-- The channel held was closed by the other side. -/
theorem quiet_closed (h : s.core.Lifecycle) (now : Time.Instant) {id : ChannelId}
    (hActive : s.core.activeId? = some id) (reason : Option String) :
    (s.act now (.handle (.closed id reason))).Quiet := by
  have hCore : (s.act now (.handle (.closed id reason))).core =
      (s.core.onEvent (.closed id reason)).1 := advance_core now s _
  refine .of_none (act_lifecycle now s _ (by simp) h) ?_ ?_
  · rw [hCore, Core.onEvent_of_active _ hActive]
    rfl
  · rw [hCore, Core.onEvent_pending]
    obtain ⟨held, hHeld, -⟩ := Option.map_eq_some_iff.mp hActive
    exact h.pending_eq_none hHeld

/-- After an attempt the session waits for its channel to be found open, if there is one. -/
theorem unarmed_of_opens (h : s.core.Lifecycle) (now : Time.Instant) {a : Act} {role : Role}
    (hOpens : a.opens? s = some role) : (s.act now a).Unarmed where
  lifecycle := by
    refine act_lifecycle now s a ?_ h
    rintro rfl
    cases hOpens
  not_connected := by
    rw [act_of_opens hOpens, openNext, advance_core, vacate, advance_core, h.vacate_fst]
    exact fun hConnected => (Core.openNext_idle_fresh s.core _ role).1 (eq_of_beq hConnected)
  pending := pending_of_opens h hOpens

/-- An attempt that left no channel. -/
theorem quiet_failed (h : s.core.Lifecycle) (now : Time.Instant) {a : Act} {role : Role}
    (hOpens : a.opens? s = some role) (hChannel : (s.act now a).core.channel = none) :
    (s.act now a).Quiet :=
  ⟨unarmed_of_opens h now hOpens, hChannel⟩

/-- **Nothing retries by itself.** Once a session of a run has neither a channel nor a pending
reconnect, as after every close and every failed attempt, it stays disconnected, attempts nothing
and orders nothing at the gateway until somebody asks for a channel. A run therefore attempts as
many channels, and uses up as many numbers, as were asked for and reconnects carried out, and
carries out at most one reconnect for each change of the role. -/
theorem nothing_retries_by_itself (settings : Settings) (role : Role) (gateway : Gateway)
    (early : List Timed) :
    let s₀ := start settings role gateway
    let s := s₀.run early
    (s.core.channel = none → s.core.pending = none →
      ∀ rest : List Timed, (∀ a ∈ rest, ¬ a.2.connects) →
        let s' := s.run rest
        (s'.core.phase = .disconnected ∧ s'.core.channel = none ∧ s'.core.identity = none ∧
            s'.core.pending = none) ∧
          s.attempts rest = [] ∧ (∀ m ∈ s.moments rest, ¬ m.fires) ∧
          (s.moments rest).flatMap Moment.orders = [] ∧
          (s'.core.nextId = s.core.nextId ∧ s'.gateway.requests = s.gateway.requests) ∧
          ∀ id, (s'.gateway.sent id).1 = (s.gateway.sent id).1) ∧
      (∀ now, (s.act now .disconnect).Quiet ∧
        (∀ id reason, s.core.activeId? = some id →
          (s.act now (.handle (.closed id reason))).Quiet) ∧
        (∀ a r, a.opens? s = some r → (s.act now a).core.channel = none →
          (s.act now a).Quiet)) ∧
      (s₀.attempts early).length =
        (early.countP fun a => a.2.connects) + (s₀.moments early).countP Moment.fires ∧
      s.core.nextId.number =
        1 + ((early.countP fun a => a.2.connects) + (s₀.moments early).countP Moment.fires) ∧
      (s₀.moments early).countP Moment.fires ≤ early.countP fun a => a.2.changesRole := by
  intro s₀ s
  have hStart : s₀.core.Lifecycle := Core.lifecycle_fresh role
  have hLife : s.core.Lifecycle := run_lifecycle early s₀ hStart
  have hLength := length_attempts early s₀
  have hNext : s.core.nextId.number = 1 + _ := (attempts_numbers early s₀).2
  rw [hLength] at hNext
  refine ⟨fun hChannel hPending rest hRest => ?_,
    fun now => ⟨quiet_disconnect hLife now,
      fun _ reason hActive => quiet_closed hLife now hActive reason,
      fun _ _ hOpens hNone => quiet_failed hLife now hOpens hNone⟩,
    hLength, hNext, countP_fires_le early hStart rfl⟩
  obtain ⟨hQuiet, hAttempts, hOrders, hAccounts⟩ :=
    (Quiet.of_none hLife hChannel hPending).run hRest
  have hPhase := hQuiet.lifecycle.disconnected_iff.mpr hQuiet.channel
  refine ⟨⟨hPhase, hQuiet.channel, ?_, hQuiet.pending⟩, hAttempts,
    fun m hm => (attempts_eq_nil_iff.mp hAttempts m hm).2, hOrders, run_of_no_attempts hAttempts,
    fun id => ?_⟩
  · exact hQuiet.lifecycle.identity_eq_none (by rw [hPhase]; decide)
  · rw [Gateway.sent_fst, Gateway.sent_fst, hAccounts]

/-- The gateway refuses the reconnect after a change of the role; further changes and ticks open
nothing. -/
theorem nothing_retries_by_itself_refused_reconnect :
    let s₀ := start { endpoint := "ws://[::1]" } .client { policy := .accept }
    let early : List Timed :=
      [(.zero, .connectCurrent), (.zero, .handle (.opened ⟨1⟩)),
        (.zero, .changeRole .manager .zero), (.zero, .answer (.refuse "busy") true),
        (.zero, .tick (.ofMillis 1000))]
    let rest : List Timed :=
      [(.zero, .answer .accept true), (.zero, .changeRole .client .zero),
        (.zero, .tick (.ofMillis 5000)), (.zero, .handle (.opened ⟨1⟩)), (.zero, .send "x")]
    let s := s₀.run early
    (s.core.channel = none ∧ s.core.pending = none ∧ ∀ a ∈ rest, ¬ a.2.connects) ∧
      s.attempts rest = [] ∧ (s.moments rest).flatMap Moment.orders = [] ∧
      (s₀.attempts early).length = 2 := by
  intro s₀ early rest s
  have hRest : ∀ a ∈ rest, ¬ a.2.connects := by decide
  obtain ⟨hStays, -, hLength, -⟩ :=
    nothing_retries_by_itself { endpoint := "ws://[::1]" } .client { policy := .accept } early
  obtain ⟨-, hAttempts, -, hOrders, -⟩ := hStays (by decide +kernel) (by decide +kernel) rest hRest
  refine ⟨⟨by decide +kernel, by decide +kernel, hRest⟩, hAttempts, hOrders, hLength.trans ?_⟩
  decide +kernel

end ChatConsole.Session
