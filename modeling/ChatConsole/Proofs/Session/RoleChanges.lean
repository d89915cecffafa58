import ChatConsole.Proofs.Session.Outbound
import ChatConsole.Proofs.Session.Quiet

/-! # Changes of the role in a row

A connected session closes its channel at the first change of the role and waits. While it waits,
each further change starts the delay over, and only the newest one counts: a tick that comes too
early for it opens nothing, however late it is for the others, and the first that does not opens one
channel with its role. From there on the session is unarmed.
-/

namespace ChatConsole.Session

/-- A change of the role, with the instant that its delay counts from. -/
structure RoleChange where
  role : Role
  changedAt : Time.Instant

/-- Whether the delay after the change is over. -/
def RoleChange.IsDue (x : RoleChange) (delay : Time.Duration) (reading : Time.Instant) : Prop :=
  x.changedAt.toNanos + delay.toNanos ≤ reading.toNanos

theorem RoleChange.isDue_schedule (x : RoleChange) (delay : Time.Duration)
    (reading : Time.Instant) :
    (Reconnect.schedule x.role x.changedAt delay).isDue reading ↔ x.IsDue delay reading := by
  rw [Reconnect.isDue, Time.Instant.reached_iff, Reconnect.schedule, Time.Instant.toNanos_add,
    RoleChange.IsDue]

def Act.roleChange? : Act → Option RoleChange
  | .changeRole role changedAt => some ⟨role, changedAt⟩
  | _ => none

/-- The newest change of the role after some acts, where `first` came before them. -/
def newestChange (first : RoleChange) (acts : List Timed) : RoleChange :=
  ((acts.filterMap (·.2.roleChange?)).getLast?).getD first

theorem newestChange_cons (first : RoleChange) (a : Timed) (acts : List Timed) :
    newestChange first (a :: acts) = newestChange (a.2.roleChange?.getD first) acts := by
  unfold newestChange
  rw [List.filterMap_cons]
  cases a.2.roleChange? with
  | none => rfl
  | some x => exact congrArg (Option.getD · first) List.getLast?_cons

/-- No tick among the acts comes late enough for the change that is the newest one at it. -/
def NoneDue (delay : Time.Duration) (first : RoleChange) (acts : List Timed) : Prop :=
  ∀ before now reading after, acts = before ++ (now, .tick reading) :: after →
    ¬ (newestChange first before).IsDue delay reading

theorem noneDue_cons {delay : Time.Duration} {first : RoleChange} {now : Time.Instant} {a : Act}
    {acts : List Timed} :
    NoneDue delay first ((now, a) :: acts) ↔
      (∀ reading, a = .tick reading → ¬ first.IsDue delay reading) ∧
        NoneDue delay (a.roleChange?.getD first) acts := by
  constructor
  · intro h
    refine ⟨fun reading ha => h [] now reading acts (by rw [ha]; rfl), ?_⟩
    intro before now' reading after hActs
    have hNewest := h ((now, a) :: before) now' reading after (by rw [hActs]; rfl)
    rwa [newestChange_cons] at hNewest
  · rintro ⟨hHead, hTail⟩ before now' reading after hActs
    cases before with
    | nil =>
      obtain ⟨hHere, -⟩ := List.cons.inj hActs
      exact hHead reading (congrArg Prod.snd hHere)
    | cons b before =>
      obtain ⟨rfl, hLater⟩ := List.cons.inj hActs
      rw [newestChange_cons]
      exact hTail before now' reading after hLater

instance (x : RoleChange) (delay : Time.Duration) (reading : Time.Instant) :
    Decidable (x.IsDue delay reading) := inferInstanceAs (Decidable (_ ≤ _))

instance (a : Act) (p : Time.Instant → Prop) [DecidablePred p] :
    Decidable (∀ reading, a = .tick reading → p reading) :=
  match a with
  | .tick reading =>
    decidable_of_iff (p reading) ⟨fun h _ hSame => Act.tick.inj hSame ▸ h, fun h => h reading rfl⟩
  | .connect _ | .connectCurrent | .disconnect | .changeRole .. | .send _ | .notify _ | .handle _
  | .enqueue _ | .emit _ | .pump | .answer .. | .look _ => isTrue fun _ hSame => nomatch hSame

/-- One pass over the acts tells. -/
instance decidableNoneDue (delay : Time.Duration) :
    (first : RoleChange) → (acts : List Timed) → Decidable (NoneDue delay first acts)
  | _, [] => isTrue fun before _ _ _ hActs => by cases before <;> cases hActs
  | first, (_, a) :: acts =>
    have := decidableNoneDue delay (a.roleChange?.getD first) acts
    decidable_of_iff _ noneDue_cons.symm

/-- Acts that neither ask for a channel nor give up a pending reconnect. -/
def Act.waits : Act → Bool
  | .connect _ | .connectCurrent | .disconnect => false
  | _ => true

/-- A session that waits for the reconnect after a change of the role. -/
structure Awaiting (x : RoleChange) (s : Session) : Prop where
  lifecycle : s.core.Lifecycle
  pending : s.core.pending = some (.schedule x.role x.changedAt s.settings.delay)

namespace Awaiting

variable {x : RoleChange} {s : Session}

theorem dueRole? (h : Awaiting x s) {reading : Time.Instant}
    (hDue : x.IsDue s.settings.delay reading) : s.core.dueRole? reading = some x.role :=
  Core.dueRole?_eq_some.mpr ⟨_, h.pending, (x.isDue_schedule _ _).mpr hDue, rfl⟩

theorem dueRole?_eq_none (h : Awaiting x s) {reading : Time.Instant}
    (hEarly : ¬ x.IsDue s.settings.delay reading) : s.core.dueRole? reading = none := by
  cases hDue : s.core.dueRole? reading with
  | none => rfl
  | some role =>
    obtain ⟨r, hPending, hReached, -⟩ := Core.dueRole?_eq_some.mp hDue
    rw [h.pending] at hPending
    obtain rfl := Option.some.inj hPending
    exact absurd ((x.isDue_schedule _ _).mp hReached) hEarly

theorem opens?_eq_none (h : Awaiting x s) {a : Act} (ha : a.waits)
    (hEarly : ∀ reading, a = .tick reading → ¬ x.IsDue s.settings.delay reading) :
    a.opens? s = none := by
  cases a with
  | tick reading => exact h.dueRole?_eq_none (hEarly reading rfl)
  | connect role => cases ha
  | connectCurrent => cases ha
  | _ => rfl

/-- Only a further change of the role changes what the session waits for. -/
theorem act (h : Awaiting x s) (now : Time.Instant) {a : Act} (hPump : a ≠ .pump) (ha : a.waits)
    (hEarly : ∀ reading, a = .tick reading → ¬ x.IsDue s.settings.delay reading) :
    Awaiting (a.roleChange?.getD x) (s.act now a) where
  lifecycle := act_lifecycle now s a hPump h.lifecycle
  pending := by
    rw [act_settings]
    rcases act_pending now h.lifecycle hPump with
      ⟨hOpens, -⟩ | ⟨role, changedAt, rfl, -, hScheduled⟩ | ⟨rfl, -⟩ | ⟨hSame, hQuiet⟩
    · rw [h.opens?_eq_none ha hEarly] at hOpens
      cases hOpens
    · exact hScheduled
    · cases ha
    · have hNoChange : a.roleChange? = none := by
        cases a with
        | changeRole role changedAt =>
          have hNone := (hQuiet rfl).2
          rw [h.pending] at hNone
          cases hNone
        | _ => rfl
      rw [hSame, hNoChange]
      exact h.pending

/-- Taking in what waits changes nothing: there is no channel for the events to be of. -/
theorem pump (h : Awaiting x s) (now : Time.Instant) : Awaiting x (s.act now .pump) := by
  rw [act_pump]
  exact handleAll_keeps now (fun t e ht => ht.act now (a := .handle e) (by simp) rfl (by simp))
    s.queue _ ⟨h.lifecycle, h.pending⟩

/-- As long as the newest change is not due, the session waits for it and attempts nothing. -/
theorem run {acts : List Timed} {x : RoleChange} {s : Session} (h : Awaiting x s)
    (hActs : ∀ a ∈ acts, a.2.waits) (hEarly : NoneDue s.settings.delay x acts) :
    Awaiting (newestChange x acts) (s.run acts) ∧ s.attempts acts = [] := by
  induction acts generalizing x s with
  | nil => exact ⟨h, rfl⟩
  | cons a acts ih =>
    obtain ⟨now, a⟩ := a
    have ha : a.waits := hActs (now, a) List.mem_cons_self
    obtain ⟨hHead, hTail⟩ := noneDue_cons.mp hEarly
    have hNext : Awaiting (a.roleChange?.getD x) (s.act now a) := by
      by_cases hPump : a = .pump
      · subst hPump
        exact h.pump now
      · exact h.act now hPump ha hHead
    obtain ⟨hAfter, hNone⟩ := ih hNext (fun b hb => hActs b (List.mem_cons_of_mem _ hb))
      (by rw [act_settings]; exact hTail)
    rw [run_cons, newestChange_cons, attempts, h.opens?_eq_none ha hHead, hNone]
    exact ⟨hAfter, rfl⟩

/-- The tick that is late enough. -/
theorem tick (h : Awaiting x s) (now : Time.Instant) {reading : Time.Instant}
    (hDue : x.IsDue s.settings.delay reading) :
    (s.tick now reading).1 = true ∧ s.attempts [(now, .tick reading)] = [⟨s.vacate now, x.role⟩] ∧
      Attempt.MadeBy ⟨s.vacate now, x.role⟩ now s (.tick reading) ∧
      (s.tick now reading).2.Unarmed := by
  have hRole : (Act.tick reading).opens? s = some x.role := h.dueRole? hDue
  refine ⟨?_, ?_, madeBy_of_opens now hRole, unarmed_of_opens h.lifecycle now hRole⟩
  · rw [tick_of_pending h.pending, if_pos ((x.isDue_schedule _ _).mpr hDue)]
  · rw [attempts, hRole]
    rfl

end Awaiting

/-! ## The first change -/

theorem closedByClient_close (g : Gateway) {id : ChannelId} (h : g.knows id) :
    ((g.close id).closedByClient id).1 = true := by
  obtain ⟨line, hLine⟩ := Option.isSome_iff_exists.mp h
  rw [Gateway.closedByClient_fst, Gateway.find?_accounts, Gateway.close, Gateway.line?_onPipe,
    hLine, Option.map_some, Option.map_some, Gateway.Line.account_close]
  rfl

/-- A change of the role closes the channel of a connected session and has it wait. -/
theorem changeRole_of_connected {s : Session} (h : s.core.Lifecycle) (hConnected : s.isConnected)
    (now : Time.Instant) (x : RoleChange) :
    let change := Act.changeRole x.role x.changedAt
    ∃ id, s.core.activeId? = some id ∧ Moment.orders ⟨s, now, change⟩ = [.closed id] ∧
      (s.act now change).core.activeId? = none ∧
      (s.gateway.knows id → ((s.act now change).gateway.closedByClient id).1 = true) ∧
      Awaiting x (s.act now change) := by
  intro change
  obtain ⟨held, hHeld⟩ := h.channel_of_connected hConnected
  have hActive : s.core.activeId? = some held.id := by rw [Core.activeId?, hHeld]; rfl
  have hOrders : Moment.orders ⟨s, now, change⟩ = [.closed held.id] := by
    refine (s.core.orders_changeRole s.conditions x.role x.changedAt).trans ?_
    rw [if_pos (Or.inl (show s.core.isConnected from hConnected)), Core.ending, hActive]
    rfl
  have hGateway : (s.act now change).gateway = s.gateway.close held.id := by
    have hOrdered := advance_gateway_orders now s
      (s.core.changeRole s.conditions x.role x.changedAt)
    rwa [show orders _ = [Effect.closed held.id] from hOrders] at hOrdered
  have hCore : (s.act now change).core = { s.core.idle with
      role := x.role, pending := some (.schedule x.role x.changedAt s.settings.delay) } :=
    (advance_core now s _).trans (h.changeRole_fst_of_again (Or.inl hConnected))
  refine ⟨held.id, hActive, hOrders, ?_, fun hKnows => ?_,
    act_lifecycle now s change (by simp [change]) h, ?_⟩
  · rw [hCore]
    rfl
  · rw [hGateway]
    exact closedByClient_close s.gateway hKnows
  · rw [hCore, act_settings]

/-- **Changes of the role in a row reconnect once.** The first one closes the channel of the
connected session; until a tick is late enough for the newest one nothing is opened; that tick makes
one attempt with the newest role, which uses up one number and leaves a line for its request if the
gateway has one; and after it, whatever becomes of the attempt, nothing is opened until somebody
asks for a channel or the session finds its channel open. -/
theorem role_changes_reconnect_once (settings : Settings) (role : Role) (gateway : Gateway)
    (early waits : List Timed) (now : Time.Instant) (first : RoleChange)
    (hConnected : ((start settings role gateway).run early).isConnected)
    (hWaits : ∀ a ∈ waits, a.2.waits) (hEarly : NoneDue settings.delay first waits) :
    let s := (start settings role gateway).run early
    let change := Act.changeRole first.role first.changedAt
    let closed := s.act now change
    let s' := closed.run waits
    let newest := newestChange first waits
    (∃ id, s.core.activeId? = some id ∧ Moment.orders ⟨s, now, change⟩ = [.closed id] ∧
        closed.core.activeId? = none ∧
        (s.gateway.knows id → (closed.gateway.closedByClient id).1 = true)) ∧
      (closed.attempts waits = [] ∧ (∀ m ∈ closed.moments waits, ¬ m.fires) ∧
        s'.core.nextId = closed.core.nextId ∧
        s'.gateway.requests = closed.gateway.requests) ∧
      ∀ now' reading, newest.IsDue settings.delay reading →
        let fired := (s'.tick now' reading).2
        let attempt : Attempt := ⟨s'.vacate now', newest.role⟩
        ((s'.tick now' reading).1 = true ∧
            s'.attempts [(now', .tick reading)] = [attempt] ∧
            attempt.MadeBy now' s' (.tick reading) ∧
            (fired = (s'.vacate now').openNext now' newest.role ∧
              fired.core.nextId = s'.core.nextId.next) ∧
            ∀ request, attempt.request = .ok request →
              request.role = newest.role ∧
                (s'.gateway.answer = .ok .line →
                  fired.gateway.requests = s'.gateway.requests ++ [request])) ∧
          ∀ rest : List Timed, (∀ a ∈ rest, ¬ a.2.connects) →
            (∀ m ∈ fired.moments rest, ∀ id, ¬ m.opens id) →
            fired.attempts rest = [] ∧ (∀ m ∈ fired.moments rest, ¬ m.fires) ∧
              (fired.run rest).core.nextId = fired.core.nextId ∧
              (fired.run rest).gateway.requests = fired.gateway.requests := by
  intro s change closed s' newest
  have hLife : s.core.Lifecycle := run_lifecycle early _ (Core.lifecycle_fresh role)
  obtain ⟨id, hActive, hOrders, hNone, hClosed, hAwaiting⟩ :=
    changeRole_of_connected hLife hConnected now first
  have hDelay : closed.settings = settings := (act_settings now s change).trans (run_settings _ _)
  obtain ⟨hNewest, hAttempts⟩ := hAwaiting.run hWaits (show NoneDue closed.settings.delay _ _ by
    rw [hDelay]; exact hEarly)
  refine ⟨⟨id, hActive, hOrders, hNone, hClosed⟩,
    ⟨hAttempts, fun m hm => (attempts_eq_nil_iff.mp hAttempts m hm).2,
      run_of_no_attempts hAttempts⟩, ?_⟩
  intro now' reading hDue fired attempt
  have hDue' : newest.IsDue s'.settings.delay reading := by
    rw [show s'.settings = settings from (run_settings waits closed).trans hDelay]
    exact hDue
  obtain ⟨hFires, hAttempt, hMade, hUnarmed⟩ := hNewest.tick now' hDue'
  refine ⟨⟨hFires, hAttempt, hMade, ⟨hMade.opened, hMade.nextId⟩, fun request hRequest =>
    ⟨(Core.make_eq_ok hRequest).2, hMade.requests_of_line hRequest⟩⟩, ?_⟩
  intro rest hRest hOpened
  obtain ⟨-, hNothing, hNone⟩ := hUnarmed.run hRest hOpened
  exact ⟨hNothing, hNone, run_of_no_attempts hNothing⟩

/-- The second change comes before the first is due; the gateway is busy when the reconnect is. -/
theorem role_changes_reconnect_once_superseded :
    let early : List Timed := [(.zero, .connectCurrent), (.zero, .handle (.opened ⟨1⟩))]
    let first : RoleChange := ⟨.manager, .zero⟩
    let waits : List Timed :=
      [(.zero, .send "x"), (.zero, .changeRole .client (.ofMillis 500)),
        (.zero, .tick (.ofMillis 1000)), (.zero, .enqueue (.opened ⟨1⟩)), (.zero, .pump),
        (.zero, .answer (.refuse "busy") true)]
    let rest : List Timed :=
      [(.zero, .changeRole .manager .zero), (.zero, .answer .accept true),
        (.zero, .tick (.ofMillis 9000))]
    let settings : Settings := { endpoint := "ws://[::1]" }
    let s := (start settings .client { policy := .accept }).run early
    let s' := (s.act .zero (.changeRole .manager .zero)).run waits
    let fired := (s'.tick .zero (.ofMillis 1500)).2
    (s.isConnected ∧ (∀ a ∈ waits, a.2.waits) ∧ NoneDue settings.delay first waits) ∧
      s'.attempts [(.zero, .tick (.ofMillis 1500))] = [⟨s'.vacate .zero, .client⟩] ∧
      (∀ a ∈ rest, ¬ a.2.connects) ∧ fired.attempts rest = [] := by
  intro early first waits rest settings s s' fired
  have hConnected : s.isConnected := by decide +kernel
  have hWaits : ∀ a ∈ waits, a.2.waits := by decide
  have hEarly : NoneDue settings.delay first waits := by decide +kernel
  have hRest : ∀ a ∈ rest, ¬ a.2.connects := by decide
  obtain ⟨-, -, hTick⟩ := role_changes_reconnect_once settings .client { policy := .accept } early
    waits .zero first hConnected hWaits hEarly
  obtain ⟨⟨-, hAttempt, -⟩, hAfter⟩ := hTick .zero (.ofMillis 1500) (by decide +kernel)
  refine ⟨⟨hConnected, hWaits, hEarly⟩, hAttempt, hRest, (hAfter rest hRest ?_).1⟩
  intro m hm id hOpens
  have hHandle : m.act = .handle (.opened id) := (of_decide_eq_true hOpens).1
  have hAct : m.act ∈ (fired.moments rest).map Moment.act := List.mem_map_of_mem hm
  rw [show (fired.moments rest).map Moment.act = rest.map Prod.snd from rfl, hHandle] at hAct
  simp [rest] at hAct

end ChatConsole.Session
