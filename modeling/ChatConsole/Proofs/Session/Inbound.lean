import ChatConsole.Proofs.Session.Frames
import ChatConsole.Proofs.Session.Reconnects
import ChatConsole.Proofs.Session.Stale

/-! # Inbound traffic

Events are handled one at a time as they come, or they wait and are taken in together. Either way it
is their order that counts: a delivery leads to the session in which each event was handled at the
reading of the clock at which it was taken in, and but for these readings to the same session for
every way to split the events. Whatever the events say, they select no role, schedule and open
nothing and put nothing out. At most they end the channel, and from there on they change nothing.
-/

namespace ChatConsole

namespace Retained

/-- The log with every entry changed by `f`. -/
def map (f : α → β) (log : Retained α) : Retained β where
  entries := log.entries.map f
  limit := log.limit
  limit_pos := log.limit_pos
  length_le := by rw [List.length_map]; exact log.length_le

theorem map_append (f : α → β) (log : Retained α) (entry : α) :
    (log.append entry).map f = (log.map f).append (f entry) := by
  have hEntries : (lastOf log.limit (log.entries ++ [entry])).map f =
      lastOf log.limit (log.entries.map f ++ [f entry]) := by
    simp only [lastOf, List.map_drop, List.map_append, List.map_cons, List.map_nil,
      List.length_append, List.length_map, List.length_cons, List.length_nil]
  simp only [append, map, hEntries]

end Retained

namespace Session

/-! ## One event -/

/-- What a step that orders nothing at the gateway can reach besides the core. -/
theorem advance_of_orders_nil (now : Time.Instant) (s : Session) {step : Step}
    (h : orders step.2 = []) :
    ∃ transcript activity records,
      s.advance now step = { s with core := step.1, transcript, activity, records } := by
  have hGateway : (s.advance now step).gateway = s.gateway := by
    rw [advance_gateway_orders, h]
    rfl
  have hCore := advance_core now s step
  have hSettings := advance_settings now s step
  have hQueue := advance_queue now s step
  generalize s.advance now step = t at hGateway hCore hSettings hQueue ⊢
  exact ⟨t.transcript, t.activity, t.records, by rw [← hGateway, ← hCore, ← hSettings, ← hQueue]⟩

theorem Core.exists_identity_onMessage (c : Core) (raw : String) :
    ∃ identity, (c.onMessage raw).1 = { c with identity } := by
  rcases c.onMessage_core raw with hSame | ⟨origin, -, -, hNamed⟩
  · exact ⟨c.identity, hSame⟩
  · exact ⟨some origin, hNamed⟩

/-- A message is shown, and it may tell who the user is. -/
theorem handle_message (now : Time.Instant) (s : Session) (id : ChannelId) (raw : String) :
    ∃ transcript activity records identity, s.handle now (.message id raw) =
      { s with transcript, activity, records, core := { s.core with identity } } := by
  have hOrders : orders (s.core.onEvent (.message id raw)).2 = [] := by
    rw [Core.orders_onEvent]
    exact if_neg fun h => Bool.false_ne_true h.2
  have hCore : ∃ identity, (s.core.onEvent (.message id raw)).1 = { s.core with identity } := by
    by_cases hActive : s.core.activeId? = some id
    · rw [Core.onEvent_of_active (.message id raw) hActive]
      exact s.core.exists_identity_onMessage raw
    · exact ⟨s.core.identity, by rw [Core.onEvent_of_other (e := .message id raw) hActive]⟩
  obtain ⟨identity, hCore⟩ := hCore
  obtain ⟨transcript, activity, records, hStep⟩ := advance_of_orders_nil now s hOrders
  exact ⟨transcript, activity, records, identity, hCore ▸ hStep⟩

/-- An error is shown, and that is all. -/
theorem handle_failed (now : Time.Instant) (s : Session) (id : ChannelId) (description : String) :
    ∃ transcript activity records,
      s.handle now (.failed id description) = { s with transcript, activity, records } := by
  have hOrders : orders (s.core.onEvent (.failed id description)).2 = [] := by
    rw [Core.orders_onEvent]
    exact if_neg fun h => Bool.false_ne_true h.2
  have hCore : (s.core.onEvent (.failed id description)).1 = s.core := by
    by_cases hActive : s.core.activeId? = some id
    · rw [Core.onEvent_of_active (.failed id description) hActive]
      rfl
    · rw [Core.onEvent_of_other (e := .failed id description) hActive]
  obtain ⟨transcript, activity, records, hStep⟩ := advance_of_orders_nil now s hOrders
  exact ⟨transcript, activity, records, hCore ▸ hStep⟩

/-- An event of any channel but the one held leaves a note in the journal. -/
theorem visible_handle_of_other (now : Time.Instant) {s : Session} {e : ChannelEvent}
    (h : s.core.activeId? ≠ some e.channel) : (s.handle now e).visible = s.visible := by
  rw [handle, Core.onEvent_of_other h]
  rfl

/-- How a session stands to what it was before some events came in: they drive it to nothing. -/
structure Undriven (s t : Session) : Prop where
  settings : t.settings = s.settings
  role : t.core.role = s.core.role
  pending : t.core.pending = s.core.pending
  nextId : t.core.nextId = s.core.nextId
  channel : t.core.channel = s.core.channel ∨ t.core.channel = none
  /-- The open requests that the gateway accepted. -/
  requests : t.gateway.requests = s.gateway.requests
  /-- The texts that the gateway finds on its lines. -/
  sent : ∀ id, (t.gateway.sent id).1 = (s.gateway.sent id).1

theorem Undriven.refl (s : Session) : Undriven s s :=
  ⟨rfl, rfl, rfl, rfl, Or.inl rfl, rfl, fun _ => rfl⟩

theorem Undriven.handle {s t : Session} (h : Undriven s t) (now : Time.Instant)
    (e : ChannelEvent) : Undriven s (t.handle now e) := by
  have hCore : (t.handle now e).core = (t.core.onEvent e).1 := advance_core now t _
  obtain ⟨identity, phase, channel, hEvent⟩ := t.core.onEvent_core e
  refine ⟨(advance_settings now t _).trans h.settings, ?_, ?_, ?_, ?_,
    (requests_handle now t e).trans h.requests, fun id => ?_⟩
  · rw [hCore, hEvent, h.role]
  · rw [hCore, hEvent, h.pending]
  · rw [hCore, hEvent, h.nextId]
  · rw [hCore]
    rcases t.core.onEvent_channel e with ⟨-, -, -, -, hSame⟩ | ⟨-, hNone⟩ | ⟨-, hSame, -⟩
    · rw [hSame]
      exact h.channel
    · exact Or.inr hNone
    · rw [hSame]
      exact h.channel
  · rw [← h.sent id, Session.handle, advance_gateway_orders,
      Gateway.sent_ends (t.core.isEnd_of_mem_orders_onEvent e)]

/-! ## Deliveries -/

/-- An event and the reading of the clock at which it is handled. -/
abbrev Arrival := Time.Instant × ChannelEvent

/-- How events come in at one reading of the clock. -/
inductive Delivery
  /-- An event is handled at once. -/
  | direct (e : ChannelEvent)
  /-- Some events come to wait and are taken in together. -/
  | pumped (es : List ChannelEvent)

namespace Delivery

def events : Delivery → List ChannelEvent
  | direct e => [e]
  | pumped es => es

def acts : Delivery → List Act
  | direct e => [.handle e]
  | pumped es => es.map .enqueue ++ [.pump]

end Delivery

/-- The acts by which events are delivered. -/
def deliveryActs (ds : List (Time.Instant × Delivery)) : List Timed :=
  ds.flatMap fun d => d.2.acts.map (d.1, ·)

/-- The events of some deliveries in order, each with the reading at which it is handled. -/
def arrivals (ds : List (Time.Instant × Delivery)) : List Arrival :=
  ds.flatMap fun d => d.2.events.map (d.1, ·)

/-- The session once each of some events was handled at its reading. -/
def handleEach (s : Session) (es : List Arrival) : Session :=
  es.foldl (fun s e => s.handle e.1 e.2) s

theorem handleEach_append (s : Session) (es es' : List Arrival) :
    s.handleEach (es ++ es') = (s.handleEach es).handleEach es' := List.foldl_append

theorem handleEach_map (now : Time.Instant) (es : List ChannelEvent) (s : Session) :
    s.handleEach (es.map (now, ·)) = handleAll now s es := List.foldl_map

theorem handleEach_queue (es : List Arrival) (s : Session) : (s.handleEach es).queue = s.queue := by
  induction es generalizing s with
  | nil => rfl
  | cons e es ih => exact (ih (s.handle e.1 e.2)).trans (advance_queue e.1 s _)

theorem run_enqueue (now : Time.Instant) (es : List ChannelEvent) (s : Session) :
    s.run (es.map fun e => (now, .enqueue e)) = { s with queue := s.queue ++ es } := by
  induction es generalizing s with
  | nil => rw [List.append_nil]; rfl
  | cons e es ih =>
    rw [List.map_cons, run_cons, ih]
    show { s with queue := s.queue ++ [e] ++ es } = _
    rw [List.append_assoc]
    rfl

/-- What waits when nothing else did is taken in as if it had been handled at once. -/
theorem run_delivery (now : Time.Instant) {s : Session} (hQueue : s.queue = []) (d : Delivery) :
    s.run (d.acts.map (now, ·)) = s.handleEach (d.events.map (now, ·)) := by
  cases d with
  | direct e => rfl
  | pumped es =>
    have hEmpty : { s with queue := [] } = s := by rw [← hQueue]
    rw [handleEach_map, Delivery.acts, List.map_append, run_append, List.map_map]
    show (s.run (es.map fun e => (now, .enqueue e))).act now .pump = _
    rw [run_enqueue, hQueue, List.nil_append, act_pump]
    show handleAll now { s with queue := [] } es = _
    rw [hEmpty]
    rfl

theorem run_deliveryActs (ds : List (Time.Instant × Delivery)) {s : Session}
    (hQueue : s.queue = []) : s.run (deliveryActs ds) = s.handleEach (arrivals ds) := by
  induction ds generalizing s with
  | nil => rfl
  | cons d ds ih =>
    rw [deliveryActs, List.flatMap_cons, run_append, run_delivery d.1 hQueue d.2, arrivals,
      List.flatMap_cons, handleEach_append]
    exact ih ((handleEach_queue _ s).trans hQueue)

theorem undriven_handleEach (es : List Arrival) {s t : Session} (h : Undriven s t) :
    Undriven s (t.handleEach es) := by
  induction es generalizing t with
  | nil => exact h
  | cons e es ih => exact ih (h.handle e.1 e.2)

/-- Without a channel every event is one of another channel. -/
theorem visible_handleEach_of_none (es : List Arrival) {s : Session} (h : s.core.channel = none) :
    (s.handleEach es).visible = s.visible := by
  induction es generalizing s with
  | nil => rfl
  | cons e es ih =>
    have hOther : s.core.activeId? ≠ some e.2.channel := by
      rw [Core.activeId?, h]
      exact Option.some_ne_none _ |>.symm
    have hNone : (s.handle e.1 e.2).core.channel = none := by
      rw [show (s.handle e.1 e.2).core = (s.core.onEvent e.2).1 from advance_core e.1 s _,
        Core.onEvent_of_other hOther]
      exact h
    exact (ih hNone).trans (visible_handle_of_other e.1 hOther)

/-- Nothing but handling, waiting and taking in occurs in a delivery. -/
theorem act_of_mem_deliveryActs {ds : List (Time.Instant × Delivery)} {a : Timed}
    (h : a ∈ deliveryActs ds) : (∃ e, a.2 = .handle e) ∨ (∃ e, a.2 = .enqueue e) ∨ a.2 = .pump := by
  obtain ⟨d, -, hMem⟩ := List.mem_flatMap.mp h
  obtain ⟨act, hAct, rfl⟩ := List.mem_map.mp hMem
  cases hd : d.2 with
  | direct e =>
    rw [hd] at hAct
    exact Or.inl ⟨e, List.mem_singleton.mp hAct⟩
  | pumped es =>
    rw [hd] at hAct
    rcases List.mem_append.mp hAct with hWaits | hPump
    · obtain ⟨e, -, rfl⟩ := List.mem_map.mp hWaits
      exact Or.inr (Or.inl ⟨e, rfl⟩)
    · exact Or.inr (Or.inr (List.mem_singleton.mp hPump))

theorem attempts_deliveryActs (ds : List (Time.Instant × Delivery)) (s : Session) :
    s.attempts (deliveryActs ds) = [] := by
  have hNone : ∀ (acts : List Timed) (s : Session),
      (∀ a ∈ acts, ∀ t : Session, a.2.opens? t = none) → s.attempts acts = [] := by
    intro acts
    induction acts with
    | nil => exact fun _ _ => rfl
    | cons a acts ih =>
      intro s h
      rw [attempts, h a List.mem_cons_self s, ih _ fun b hb => h b (List.mem_cons_of_mem _ hb)]
      rfl
  refine hNone _ s fun a ha t => ?_
  rcases act_of_mem_deliveryActs ha with ⟨e, hAct⟩ | ⟨e, hAct⟩ | hAct <;> rw [hAct] <;> rfl

theorem frames_deliveryActs (ds : List (Time.Instant × Delivery)) (s : Session) :
    s.frames (deliveryActs ds) = [] := by
  refine List.eq_nil_iff_forall_not_mem.mpr ?_
  rintro ⟨id, text⟩ hFrame
  obtain ⟨a, ha, raw, hSend, -⟩ := exists_send_of_mem_frames hFrame
  rcases act_of_mem_deliveryActs ha with ⟨e, hAct⟩ | ⟨e, hAct⟩ | hAct <;>
    cases hAct.symm.trans hSend

/-! ## Sessions without readings of the clock -/

/-- The session with every reading of the clock that it noted set to zero. -/
def untimed (s : Session) : Session :=
  { s with
    transcript := s.transcript.map fun entry => { entry with createdAt := .zero }
    activity := s.activity.map fun line => { line with createdAt := .zero }
    records := s.records.map fun record => { record with time := .zero } }

theorem untimed_perform (now : Time.Instant) (s : Session) (e : Effect) :
    (s.perform now e).untimed = s.untimed.perform .zero e := by
  have hNotify : ∀ text, (s.notify now text).untimed = s.untimed.notify .zero text := by
    intro text
    simp only [notify, note, untimed, Retained.map_append, List.map_cons]
  cases e with
  | entry category origin body =>
    have hAppend : ∀ (t : Session) (entry : Entry),
        { t with transcript := t.transcript.append entry }.untimed =
          { t.untimed with
            transcript := t.untimed.transcript.append { entry with createdAt := .zero } } := by
      intro t entry
      simp only [untimed, Retained.map_append]
    simp only [perform, addEntry]
    split
    · rw [hAppend, hNotify]
    · exact hAppend s _
  | notice text => exact hNotify text
  | _ => rfl

theorem untimed_handle (now : Time.Instant) (s : Session) (e : ChannelEvent) :
    (s.handle now e).untimed = s.untimed.handle .zero e := by
  have hEffects : ∀ (es : List Effect) (s : Session),
      (es.foldl (perform now) s).untimed = es.foldl (perform .zero) s.untimed := by
    intro es
    induction es with
    | nil => exact fun _ => rfl
    | cons e es ih =>
      intro s
      rw [List.foldl_cons, List.foldl_cons, ih, untimed_perform]
  exact hEffects (s.core.onEvent e).2 _

/-- But for the readings it does not matter when events are handled. -/
theorem untimed_handleEach (es : List Arrival) (s : Session) :
    (s.handleEach es).untimed = handleAll .zero s.untimed (es.map Prod.snd) := by
  induction es generalizing s with
  | nil => rfl
  | cons e es ih =>
    rw [List.map_cons]
    exact (ih (s.handle e.1 e.2)).trans (congrArg (handleAll .zero · _) (untimed_handle e.1 s e.2))

/-! ## What events can do -/

/-- **Events do not drive a session.** However some events come in while nothing waits, one by one
or taken in together: the role, the pending reconnect, the next number, the requests and the texts
that the gateway has are as before, nothing is attempted and nothing put out, and the channel is as
before or gone. Besides the journal a message changes the stores and the identity, an error only the
stores. The session afterwards is the one in which each event was handled at its reading of the
clock, so it is the same for every way to split the events, but for the readings if these differ;
and what comes after the close of the channel held changes nothing that shows. -/
theorem inbound_of_deliveries (s : Session) (hQueue : s.queue = [])
    (ds : List (Time.Instant × Delivery)) :
    let s' := s.run (deliveryActs ds)
    (Undriven s s' ∧ s.attempts (deliveryActs ds) = [] ∧ s.frames (deliveryActs ds) = []) ∧
      (∀ m ∈ s.moments (deliveryActs ds), ∀ id,
        (∀ raw, m.act = .handle (.message id raw) →
          ∃ transcript activity records identity, m.session.act m.now m.act =
            { m.session with
              transcript, activity, records, core := { m.session.core with identity } }) ∧
        ∀ description, m.act = .handle (.failed id description) →
          ∃ transcript activity records, m.session.act m.now m.act =
            { m.session with transcript, activity, records }) ∧
      (s' = s.handleEach (arrivals ds) ∧
        (∀ ds', arrivals ds' = arrivals ds → s.run (deliveryActs ds') = s') ∧
        ∀ ds', (arrivals ds').map Prod.snd = (arrivals ds).map Prod.snd →
          (s.run (deliveryActs ds')).untimed = s'.untimed) ∧
      ∀ before now id reason after, arrivals ds = before ++ (now, .closed id reason) :: after →
        (s.handleEach before).core.activeId? = some id →
          s'.visible = ((s.handleEach before).handle now (.closed id reason)).visible := by
  intro s'
  have hRun : s' = s.handleEach (arrivals ds) := run_deliveryActs ds hQueue
  refine ⟨⟨?_, attempts_deliveryActs ds s, frames_deliveryActs ds s⟩, ?_, ⟨hRun, ?_, ?_⟩, ?_⟩
  · rw [hRun]
    exact undriven_handleEach _ (.refl s)
  · intro m _ id
    refine ⟨fun raw hAct => ?_, fun description hAct => ?_⟩
    · rw [hAct]
      exact handle_message m.now m.session id raw
    · rw [hAct]
      exact handle_failed m.now m.session id description
  · intro ds' hSame
    rw [run_deliveryActs ds' hQueue, hSame, hRun]
  · intro ds' hSame
    rw [run_deliveryActs ds' hQueue, hRun, untimed_handleEach, untimed_handleEach, hSame]
  · intro before now id reason after hSplit hActive
    have hNone : ((s.handleEach before).handle now (.closed id reason)).core.channel = none := by
      rw [show ((s.handleEach before).handle now (.closed id reason)).core = _ from
        advance_core now (s.handleEach before) _, Core.onEvent_of_active _ hActive]
      rfl
    rw [hRun, hSplit, handleEach_append]
    exact visible_handleEach_of_none after hNone

/-- A user is named, a fault and the close are taken in together, and the channel is not opened by
what waited behind them; another split a second later gives the same but for the time. -/
theorem inbound_of_deliveries_closed_in_pump :
    let s := (start { endpoint := "ws://[::1]" } .client { policy := .accept }).run
      [(.zero, .connectCurrent), (.zero, .handle (.opened ⟨1⟩))]
    let echo : ChannelEvent :=
      .message ⟨1⟩ "\x7b\"type\":\"command_sent\",\"message\":\"x\",\"user_id\":\"ann\"\x7d"
    let late : Time.Instant := .ofMillis 1000
    let ds : List (Time.Instant × Delivery) :=
      [(.zero, .direct echo),
        (.zero, .pumped [.failed ⟨1⟩ "reset", .closed ⟨1⟩ none, .opened ⟨1⟩])]
    let ds' : List (Time.Instant × Delivery) :=
      [(late, .pumped [echo, .failed ⟨1⟩ "reset"]), (late, .direct (.closed ⟨1⟩ none)),
        (late, .pumped []), (late, .pumped [.opened ⟨1⟩])]
    let s' := s.run (deliveryActs ds)
    s.queue = [] ∧ s.core.isConnected ∧ s'.core.channel = none ∧
      s'.transcript.entries.length = 4 ∧ s.frames (deliveryActs ds) = [] ∧
      (s.run (deliveryActs ds')).untimed = s'.untimed ∧
      s'.visible = (s.handleEach
        [(.zero, echo), (.zero, .failed ⟨1⟩ "reset"), (.zero, .closed ⟨1⟩ none)]).visible := by
  intro s echo late ds ds' s'
  have hQueue : s.queue = [] := by decide +kernel
  obtain ⟨⟨-, -, hFrames⟩, -, ⟨-, -, hSplits⟩, hClose⟩ := inbound_of_deliveries s hQueue ds
  refine ⟨hQueue, by decide +kernel, by decide +kernel, by decide +kernel, hFrames,
    hSplits ds' rfl, ?_⟩
  exact hClose [(.zero, echo), (.zero, .failed ⟨1⟩ "reset")] .zero ⟨1⟩ none [(.zero, .opened ⟨1⟩)]
    rfl (by decide +kernel)

end Session

end ChatConsole
