import Mathlib.Data.List.Basic
import ChatConsole.Proofs.Session.Orders
import ChatConsole.Proofs.Session.Views

/-! # Channels that are over

A number is used for one attempt only, so a channel that is not the session's any more never is
again. Its events, wherever they still come in, are dropped with nothing but a note in the journal:
the run without them shows the same session at every moment, orders the same at the gateway and
gives the same answers. `Alike` is the relation that both runs keep.
-/

namespace ChatConsole.Session

/-! ## What shows -/

/-- The session but for the events that wait and the journal. -/
def visible (s : Session) : Session := { s with queue := [], records := [] }

section Visible

variable (now : Time.Instant) {s t : Session}

theorem settings_eq_of_visible (h : s.visible = t.visible) : s.settings = t.settings :=
  show s.visible.settings = t.visible.settings from congrArg settings h

theorem gateway_eq_of_visible (h : s.visible = t.visible) : s.gateway = t.gateway :=
  show s.visible.gateway = t.visible.gateway from congrArg gateway h

theorem visible_isView : IsView visible where
  core := fun _ => rfl
  conditions := fun _ => rfl
  withCore := fun _ _ => rfl
  perform := by
    intro now s e
    cases e with
    | entry category origin body =>
      simp only [perform, addEntry]
      split <;> rfl
    | _ => rfl

/-- What shows after an act depends on what showed before, unless waiting events are taken in. -/
theorem visible_act (h : s.visible = t.visible) {a : Act} (hPump : a ≠ .pump) :
    (s.act now a).visible = (t.act now a).visible := by
  have hStep := step?_congr (visible_isView.core_eq h) (visible_isView.conditions_eq h) a
  have hEmit : ∀ (s : Session) (e : ChannelEvent), (s.emit e).visible = s.visible := by
    intro s e
    unfold emit
    split <;> rfl
  cases hTaken : a.step? s with
  | some step =>
    rw [act_of_step hTaken, act_of_step (hStep ▸ hTaken)]
    exact visible_isView.advance now h step
  | none =>
    cases a with
    | notify text =>
      show (s.visible.notify now text).visible = (t.visible.notify now text).visible
      rw [h]
    | enqueue e => exact h
    | emit e => exact (hEmit s e).trans (h.trans (hEmit t e).symm)
    | pump => exact absurd rfl hPump
    | answer policy running =>
      exact congrArg (fun u => { u with gateway := { u.gateway with policy, running } }) h
    | look l => exact congrArg (fun u => { u with gateway := l.after u.gateway }) h
    | _ => cases hTaken

end Visible

namespace Moment

/-- The moment as far as the session shows. -/
def visible (m : Moment) : Moment := { m with session := m.session.visible }

/-- What is ordered at the gateway. -/
def orders (m : Moment) : List Effect :=
  ((m.act.step? m.session).map fun step => Session.orders step.2).getD []

end Moment

/-- What the author of an act is told. -/
inductive Told
  | flag (b : Bool)
  | count (n : Nat)
  | texts (ts : List String)
  deriving DecidableEq

/-- What the author of the act is told at a moment. How many events were taken in at once is not a
matter of one moment. -/
def Moment.told? (m : Moment) : Option Told :=
  match m.act with
  | .tick reading => some (.flag (m.session.tick m.now reading).1)
  | .send text => some (.flag (m.session.send m.now text).1)
  | .look (.sent id) => some (.texts (m.session.gateway.sent id).1)
  | .look (.closed id) => some (.flag (m.session.gateway.closedByClient id).1)
  | .look .live => some (.count m.session.gateway.liveCount.1)
  | _ => none

theorem Moment.orders_visible (m : Moment) : m.visible.orders = m.orders := by
  unfold orders
  rw [show m.visible.act.step? m.visible.session = m.act.step? m.session from
    step?_congr rfl rfl m.act]

theorem Moment.told?_visible (m : Moment) : m.visible.told? = m.told? := by
  obtain ⟨s, now, a⟩ := m
  cases a with
  | look l => cases l <;> rfl
  | _ => rfl

/-! ## Channels that are over -/

/-- Whether an act brings in an event of the channel. -/
def Act.isTo (k : ChannelId) : Act → Bool
  | .handle e | .enqueue e | .emit e => e.channel = k
  | _ => false

/-- The session without the waiting events of a channel. -/
def without (k : ChannelId) (s : Session) : Session :=
  { s with queue := s.queue.filter (·.channel ≠ k) }

theorem opens?_of_to {k : ChannelId} {s : Session} {a : Act} (h : a.isTo k) :
    a.opens? s = none := by
  cases a with
  | handle e => rfl
  | enqueue e => rfl
  | emit e => rfl
  | _ => cases h

theorem Moment.told?_of_to {k : ChannelId} {m : Moment} (h : m.act.isTo k) : m.told? = none := by
  obtain ⟨s, now, a⟩ := m
  cases a with
  | handle e => rfl
  | enqueue e => rfl
  | emit e => rfl
  | _ => cases h

/-- A channel whose number was used and that is not the session's. -/
structure Over (k : ChannelId) (s : Session) : Prop where
  lifecycle : s.core.Lifecycle
  used : k.number < s.core.nextId.number
  inactive : s.core.activeId? ≠ some k

namespace Over

variable {k : ChannelId} {s : Session}

theorem queue (h : Over k s) (queue : List ChannelEvent) : Over k { s with queue } :=
  ⟨h.lifecycle, h.used, h.inactive⟩

/-- What is over stays so: the next channel has another number. -/
theorem act (h : Over k s) (now : Time.Instant) {a : Act} (hPump : a ≠ .pump) :
    Over k (s.act now a) where
  lifecycle := act_lifecycle now s a hPump h.lifecycle
  used := Nat.lt_of_lt_of_le h.used (act_nextId_le now s a)
  inactive := by
    intro hActive
    have hSame : (s.act now a).core.channel = s.core.channel → False := by
      intro hChannel
      rw [Core.activeId?, hChannel] at hActive
      exact h.inactive hActive
    rcases act_channel now h.lifecycle hPump with
      ⟨-, -, hFresh⟩ | ⟨_, -, -, -, hChannel⟩ | ⟨-, hNone⟩ | ⟨-, hChannel, -⟩
    · have hUsed := h.used
      rw [hFresh k hActive] at hUsed
      exact Nat.lt_irrefl _ hUsed
    · exact hSame hChannel
    · rw [Core.activeId?, hNone] at hActive
      cases hActive
    · exact hSame hChannel

/-- Nothing is ordered for an event of a channel that is over. -/
theorem orders_of_to {m : Moment} (h : Over k m.session) (hTo : m.act.isTo k) : m.orders = [] := by
  obtain ⟨s, now, a⟩ := m
  cases a with
  | handle e =>
    have he : e.channel = k := of_decide_eq_true hTo
    show Session.orders (s.core.onEvent e).2 = []
    rw [Core.onEvent_of_other (he ▸ h.inactive)]
    rfl
  | enqueue e => rfl
  | emit e => rfl
  | _ => cases hTo

/-- What is over is so at every moment of a run, and at its end. -/
theorem run (h : Over k s) (acts : List Timed) :
    Over k (s.run acts) ∧ ∀ m ∈ s.moments acts, Over k m.session := by
  refine run_keeps_moments (P := fun s ms => Over k s ∧ ∀ m ∈ ms, Over k m.session)
    (A := fun _ => True) (fun _ => trivial) (fun s ms queue h => ⟨h.1.queue queue, h.2⟩) ?_ acts
    (fun _ _ => trivial) s [] ⟨h, List.forall_mem_nil _⟩
  intro now s ms a hPump _ hs
  refine ⟨hs.1.act now hPump, fun m hm => ?_⟩
  rcases List.mem_append.mp hm with hBefore | hHere
  · exact hs.2 m hBefore
  · rw [List.mem_singleton.mp hHere]
    exact hs.1

end Over

/-! ## The run without the events of a channel -/

/-- Two sessions that differ in waiting events of a channel that is over. -/
structure Alike (k : ChannelId) (s t : Session) : Prop where
  isOver : Over k s
  visible : s.visible = t.visible
  queue : t.queue = s.queue.filter (·.channel ≠ k)

theorem alike_without {k : ChannelId} {s : Session} (h : Over k s) : Alike k s (s.without k) :=
  ⟨h, rfl, rfl⟩

/-- Only the acts that bring in events change what waits. -/
theorem act_queue {now : Time.Instant} {s : Session} {a : Act} (hPump : a ≠ .pump)
    (hEnqueue : ∀ e, a ≠ .enqueue e) (hEmit : ∀ e, a ≠ .emit e) :
    (s.act now a).queue = s.queue := by
  cases hTaken : a.step? s with
  | some step => rw [act_of_step hTaken, advance_queue]
  | none =>
    cases a with
    | enqueue e => exact absurd rfl (hEnqueue e)
    | emit e => exact absurd rfl (hEmit e)
    | pump => exact absurd rfl hPump
    | notify text => rfl
    | answer policy running => rfl
    | look l => rfl
    | _ => cases hTaken

namespace Alike

variable {k : ChannelId} {s t : Session} (now : Time.Instant)

/-- An event of the channel changes nothing that shows. -/
theorem act_to (h : Alike k s t) {a : Act} (hTo : a.isTo k) : Alike k (s.act now a) t := by
  have hEnqueue : ∀ e : ChannelEvent, e.channel = k → Alike k (s.enqueue e) t := by
    intro e he
    refine ⟨h.isOver.queue _, h.visible, ?_⟩
    show t.queue = (s.queue ++ [e]).filter (·.channel ≠ k)
    rw [h.queue, List.filter_append]
    simp [he]
  cases a with
  | handle e =>
    have he : e.channel = k := of_decide_eq_true hTo
    have hOver := h.isOver.act now (a := .handle e) (by simp)
    have hOther : s.core.activeId? ≠ some e.channel := he ▸ h.isOver.inactive
    have hDropped : s.act now (.handle e) = s.advance now _ :=
      act_of_step (congrArg some (Core.onEvent_of_other hOther))
    rw [hDropped] at hOver ⊢
    exact ⟨hOver, h.visible, h.queue⟩
  | enqueue e => exact hEnqueue e (of_decide_eq_true hTo)
  | emit e =>
    show Alike k (s.emit e) t
    unfold emit
    split
    · exact hEnqueue e (of_decide_eq_true hTo)
    · exact h
  | _ => cases hTo

theorem act (h : Alike k s t) {a : Act} (hPump : a ≠ .pump) (hTo : ¬ a.isTo k) :
    Alike k (s.act now a) (t.act now a) := by
  refine ⟨h.isOver.act now hPump, visible_act now h.visible hPump, ?_⟩
  have hEnqueue : ∀ e : ChannelEvent, e.channel ≠ k →
      (t.enqueue e).queue = (s.enqueue e).queue.filter (·.channel ≠ k) := by
    intro e he
    show t.queue ++ [e] = (s.queue ++ [e]).filter (·.channel ≠ k)
    rw [h.queue, List.filter_append]
    simp [he]
  by_cases hQueue : (∀ e, a ≠ .enqueue e) ∧ ∀ e, a ≠ .emit e
  · rw [act_queue hPump hQueue.1 hQueue.2, act_queue hPump hQueue.1 hQueue.2]
    exact h.queue
  · cases a with
    | enqueue e => exact hEnqueue e fun he => hTo (decide_eq_true he)
    | emit e =>
      show (t.emit e).queue = (s.emit e).queue.filter (·.channel ≠ k)
      unfold emit
      rw [gateway_eq_of_visible h.visible]
      split
      · exact hEnqueue e fun he => hTo (decide_eq_true he)
      · exact h.queue
    | _ => exact absurd ⟨fun _ => by simp, fun _ => by simp⟩ hQueue

/-- Taking in events, with or without those of the channel. -/
theorem handleAll (es : List ChannelEvent) {s t : Session} (h : Alike k s t) :
    Alike k (handleAll now s es) (handleAll now t (es.filter (·.channel ≠ k))) ∧
      ((momentsOf now s es).filter (!·.act.isTo k)).map Moment.visible =
        (momentsOf now t (es.filter (·.channel ≠ k))).map Moment.visible := by
  induction es generalizing s t with
  | nil => exact ⟨h, rfl⟩
  | cons e es ih =>
    by_cases he : e.channel = k
    · rw [List.filter_cons_of_neg (by simp [he]), momentsOf, List.filter_cons_of_neg (by
        simp [Act.isTo, he])]
      exact ih (h.act_to now (a := .handle e) (decide_eq_true he))
    · have hTo : ¬ (Act.handle e).isTo k := fun hTo => he (of_decide_eq_true hTo)
      obtain ⟨hAlike, hMoments⟩ := ih (h.act now (a := .handle e) (by simp) hTo)
      rw [List.filter_cons_of_pos (by simp [he]), momentsOf, List.filter_cons_of_pos (by
        simp [Act.isTo, he]), momentsOf, List.map_cons, List.map_cons]
      refine ⟨hAlike, congr (congrArg List.cons ?_) hMoments⟩
      simp only [Moment.visible, h.visible]

/-- **The run without the events of a channel that is over.** It shows the same at its end and at
every moment that is not one of the events left out. -/
theorem run (acts : List Timed) {s t : Session} (h : Alike k s t) :
    Alike k (s.run acts) (t.run (acts.filter fun a => !a.2.isTo k)) ∧
      ((s.moments acts).filter (!·.act.isTo k)).map Moment.visible =
        (t.moments (acts.filter fun a => !a.2.isTo k)).map Moment.visible := by
  induction acts generalizing s t with
  | nil => exact ⟨h, rfl⟩
  | cons a acts ih =>
    obtain ⟨now, a⟩ := a
    by_cases hTo : a.isTo k
    · have hPump : a ≠ .pump := by
        rintro rfl
        cases hTo
      obtain ⟨hAlike, hMoments⟩ := ih (h.act_to now hTo)
      rw [List.filter_cons_of_neg (by simp [hTo]), moments, if_neg hPump, List.filter_append,
        List.filter_cons_of_neg (by simp [hTo])]
      exact ⟨hAlike, hMoments⟩
    · rw [List.filter_cons_of_pos (by simp [hTo]), moments, moments, List.filter_append,
        List.map_append, List.map_append]
      by_cases hPump : a = .pump
      · subst hPump
        have hEmpty : Alike k { s with queue := [] } { t with queue := [] } :=
          ⟨h.isOver.queue [], h.visible, rfl⟩
        obtain ⟨hHandled, hEvents⟩ := handleAll now s.queue hEmpty
        rw [← h.queue] at hHandled hEvents
        obtain ⟨hAlike, hMoments⟩ := ih hHandled
        rw [if_pos rfl, if_pos rfl, hEvents]
        exact ⟨hAlike, congrArg _ hMoments⟩
      · obtain ⟨hAlike, hMoments⟩ := ih (h.act now hPump hTo)
        rw [if_neg hPump, if_neg hPump, List.filter_cons_of_pos (by simp [hTo])]
        refine ⟨hAlike, congr (congrArg _ ?_) hMoments⟩
        simp only [List.filter_nil, List.map_cons, List.map_nil, Moment.visible, h.visible]

/-- The same requests are put to the gateway in both runs. -/
theorem attempts (acts : List Timed) {s t : Session} (h : Alike k s t) :
    (s.attempts acts).map Attempt.request =
      (t.attempts (acts.filter fun a => !a.2.isTo k)).map Attempt.request := by
  induction acts generalizing s t with
  | nil => rfl
  | cons a acts ih =>
    obtain ⟨now, a⟩ := a
    rw [Session.attempts, List.map_append]
    by_cases hTo : a.isTo k
    · rw [List.filter_cons_of_neg (by simp [hTo]), opens?_of_to hTo]
      exact ih (h.act_to now hTo)
    · have hNext : Alike k (s.act now a) (t.act now a) := by
        have hRun := (h.run [(now, a)]).1
        rwa [List.filter_cons_of_pos (by simp [hTo])] at hRun
      rw [List.filter_cons_of_pos (by simp [hTo]), Session.attempts, List.map_append, ih hNext]
      congr 1
      rw [opens?_congr (visible_isView.core_eq h.visible), List.map_map, List.map_map]
      refine List.map_congr_left fun role _ => ?_
      rw [Function.comp_apply, Function.comp_apply, request_vacate, request_vacate,
        visible_isView.core_eq h.visible, settings_eq_of_visible h.visible]

/-- The same is ordered at the gateway in both runs. -/
theorem orders (acts : List Timed) {s t : Session} (h : Alike k s t) :
    (s.moments acts).flatMap Moment.orders =
      (t.moments (acts.filter fun a => !a.2.isTo k)).flatMap Moment.orders := by
  have hVisible : ∀ ms : List Moment,
      (ms.map Moment.visible).flatMap Moment.orders = ms.flatMap Moment.orders := by
    intro ms
    rw [List.flatMap_map]
    exact List.flatMap_congr fun m _ => m.orders_visible
  rw [← hVisible (t.moments _), ← (h.run acts).2, hVisible]
  have hOver := (h.isOver.run acts).2
  revert hOver
  induction s.moments acts with
  | nil => exact fun _ => rfl
  | cons m ms ih =>
    intro hOver
    have ihRest := ih fun m' hm' => hOver m' (List.mem_cons_of_mem _ hm')
    by_cases hTo : m.act.isTo k
    · rw [List.flatMap_cons, (hOver m List.mem_cons_self).orders_of_to hTo,
        List.filter_cons_of_neg (by simp [hTo])]
      exact ihRest
    · rw [List.flatMap_cons, List.filter_cons_of_pos (by simp [hTo]), List.flatMap_cons, ihRest]

/-- The same is told in both runs. -/
theorem told (acts : List Timed) {s t : Session} (h : Alike k s t) :
    (s.moments acts).filterMap Moment.told? =
      (t.moments (acts.filter fun a => !a.2.isTo k)).filterMap Moment.told? := by
  have hVisible : ∀ ms : List Moment,
      (ms.map Moment.visible).filterMap Moment.told? = ms.filterMap Moment.told? := by
    intro ms
    rw [List.filterMap_map]
    exact List.filterMap_congr fun m _ => m.told?_visible
  rw [← hVisible (t.moments _), ← (h.run acts).2, hVisible, List.filterMap_filter]
  refine List.filterMap_congr fun m _ => ?_
  split
  · rfl
  · next hTo => exact Moment.told?_of_to (by simpa using hTo)

end Alike

/-! ## Within a pump -/

/-- The session once the first `n` of the waiting events are taken in. -/
def takeIn (now : Time.Instant) (n : Nat) (s : Session) : Session :=
  { handleAll now { s with queue := [] } (s.queue.take n) with queue := s.queue.drop n }

theorem handleAll_queue (now : Time.Instant) (es : List ChannelEvent) (s : Session) :
    (handleAll now s es).queue = s.queue :=
  handleAll_keeps (P := fun t => t.queue = s.queue) now
    (fun t _ ht => (advance_queue now t _).trans ht) es s rfl

@[simp] theorem takeIn_zero (now : Time.Instant) (s : Session) : s.takeIn now 0 = s := rfl

/-- Taking in the rest of what waits completes the pump. -/
theorem act_pump_takeIn (now : Time.Instant) (n : Nat) (s : Session) :
    (s.takeIn now n).act now .pump = s.act now .pump := by
  have hQueue := handleAll_queue now (s.queue.take n) { s with queue := [] }
  have hEmpty : { s.takeIn now n with queue := [] } =
      handleAll now { s with queue := [] } (s.queue.take n) := by
    rw [takeIn]
    exact congrArg (fun queue => { Session.handleAll now _ _ with queue }) hQueue.symm
  rw [act_pump, hEmpty, act_pump]
  show handleAll now (handleAll now _ (s.queue.take n)) (s.queue.drop n) = _
  rw [handleAll, handleAll, ← List.foldl_append, List.take_append_drop]
  rfl

/-- **Events of a channel that is over leave no trace.** The channel was the session's after `early`
and is not at some later point, between two acts or within a pump. From there on it never is again,
and the rest of the run without its events, waiting ones included, shows the same at its end and at
all its moments, orders the same, tells the same and makes the same requests. -/
theorem stale_events_leave_no_trace (settings : Settings) (role : Role) (gateway : Gateway)
    (early late rest : List Timed) (now : Time.Instant) (n : Nat) (k : ChannelId)
    (hWas : ((start settings role gateway).run early).core.activeId? = some k)
    (hOver : (((start settings role gateway).run (early ++ late)).takeIn now n).core.activeId? ≠
      some k) :
    let s := ((start settings role gateway).run (early ++ late)).takeIn now n
    let t := s.without k
    let others := rest.filter fun a => !a.2.isTo k
    ((∀ m ∈ s.moments rest, m.session.core.activeId? ≠ some k) ∧
        (s.run rest).core.activeId? ≠ some k) ∧
      (s.run rest).visible = (t.run others).visible ∧
      ((s.moments rest).filter (!·.act.isTo k)).map Moment.visible =
        (t.moments others).map Moment.visible ∧
      (s.moments rest).flatMap Moment.orders = (t.moments others).flatMap Moment.orders ∧
      (s.moments rest).filterMap Moment.told? = (t.moments others).filterMap Moment.told? ∧
      (s.attempts rest).map Attempt.request = (t.attempts others).map Attempt.request := by
  intro s t others
  have hStart := Core.lifecycle_fresh role
  have hEarly := run_lifecycle early (start settings role gateway) hStart
  have hUsed : k.number < ((start settings role gateway).run early).core.nextId.number := by
    obtain ⟨held, hHeld, rfl⟩ := Option.map_eq_some_iff.mp hWas
    exact hEarly.id_lt held hHeld
  have hPoint : Over k s := by
    refine ⟨?_, ?_, hOver⟩
    · exact handleAll_keeps (P := fun u => u.core.Lifecycle) now
        (fun u e hu => act_lifecycle now u (.handle e) (by simp) hu) _ _
        (run_lifecycle (early ++ late) _ hStart)
    · have hNext : s.core.nextId =
          ((start settings role gateway).run (early ++ late)).core.nextId :=
        handleAll_nextId now _ _
      rw [hNext, run_append, (attempts_numbers late _).2]
      exact Nat.lt_of_lt_of_le hUsed (Nat.le_add_right _ _)
  have hAlike : Alike k s t := alike_without hPoint
  have hRun := hPoint.run rest
  exact ⟨⟨fun m hm => (hRun.2 m hm).inactive, hRun.1.inactive⟩, (hAlike.run rest).1.visible,
    (hAlike.run rest).2, hAlike.orders rest, hAlike.told rest, hAlike.attempts rest⟩

/-- A channel that is closed within a pump, with another of its events waiting behind the close. -/
theorem stale_events_leave_no_trace_closed_within_pump :
    let s₀ := start { endpoint := "ws://[::1]" } .client { policy := .accept }
    let early : List Timed := [(.zero, .connectCurrent)]
    let late : List Timed :=
      [(.zero, .enqueue (.opened ⟨1⟩)), (.zero, .enqueue (.closed ⟨1⟩ none)),
        (.zero, .enqueue (.failed ⟨1⟩ "late"))]
    let s := (s₀.run (early ++ late)).takeIn .zero 2
    (s₀.run early).core.activeId? = some ⟨1⟩ ∧ s.core.activeId? ≠ some ⟨1⟩ ∧
      s.queue = [.failed ⟨1⟩ "late"] ∧ (s.without ⟨1⟩).queue = [] ∧
      (s.run [(.zero, .pump), (.zero, .connectCurrent), (.zero, .handle (.opened ⟨1⟩)),
          (.zero, .handle (.opened ⟨2⟩)), (.zero, .send "x")]).visible =
        ((s.without ⟨1⟩).run [(.zero, .pump), (.zero, .connectCurrent),
          (.zero, .handle (.opened ⟨2⟩)), (.zero, .send "x")]).visible := by
  intro s₀ early late s
  have hWas : (s₀.run early).core.activeId? = some ⟨1⟩ := by decide +kernel
  have hOver : s.core.activeId? ≠ some ⟨1⟩ := by decide +kernel
  refine ⟨hWas, hOver, by decide +kernel, by decide +kernel, ?_⟩
  exact (stale_events_leave_no_trace { endpoint := "ws://[::1]" } .client { policy := .accept }
    early late [(.zero, .pump), (.zero, .connectCurrent), (.zero, .handle (.opened ⟨1⟩)),
      (.zero, .handle (.opened ⟨2⟩)), (.zero, .send "x")] .zero 2 ⟨1⟩ hWas hOver).2.1

end ChatConsole.Session
