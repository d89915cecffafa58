import ChatConsole.Proofs.Session.Lifecycle

/-! # What a step orders at the gateway

Of the effects of a step only the orders reach the gateway: a request that was accepted, a text, an
end. This file reads off the orders of each step. None has more than two: to connect is to order the
end of the channel that is held and then, if the request is accepted, a line for the next.
-/

namespace ChatConsole

namespace Session

/-- Whether an effect is carried out at the gateway. -/
def Effect.isOrder : Effect → Bool
  | .opened .. | .sent .. | .closed _ | .dropped _ => true
  | .entry .. | .wipe | .notice _ | .note _ => false

/-- The effects of a step that are carried out at the gateway. -/
def orders (es : List Effect) : List Effect := es.filter Effect.isOrder

theorem orders_append (es es' : List Effect) : orders (es ++ es') = orders es ++ orders es' :=
  List.filter_append ..

end Session

namespace Gateway

theorem perform_of_not_order (g : Gateway) {e : Session.Effect} (h : ¬ e.isOrder) :
    g.perform e = g := by
  cases e with
  | entry category origin body => rfl
  | wipe => rfl
  | notice text => rfl
  | note n => rfl
  | _ => exact absurd rfl h

theorem foldl_perform_orders (es : List Session.Effect) (g : Gateway) :
    es.foldl perform g = (Session.orders es).foldl perform g := by
  induction es generalizing g with
  | nil => rfl
  | cons e es ih =>
    rw [List.foldl_cons, ih]
    by_cases hOrder : e.isOrder
    · have hOrders : Session.orders (e :: es) = e :: Session.orders es :=
        List.filter_cons_of_pos hOrder
      rw [hOrders, List.foldl_cons]
    · rw [show Session.orders (e :: es) = Session.orders es from List.filter_cons_of_neg hOrder,
        perform_of_not_order g hOrder]

end Gateway

namespace Session

theorem advance_gateway_orders (now : Time.Instant) (s : Session) (step : Step) :
    (s.advance now step).gateway = (orders step.2).foldl Gateway.perform s.gateway := by
  rw [advance_gateway, Gateway.foldl_perform_orders]

namespace Core

variable (c : Core) (w : Conditions)

/-- The order to end the channel that is held. -/
def ending : List Effect := c.activeId?.toList.map .closed

theorem orders_cancellation : orders c.cancellation = [] := by
  unfold cancellation
  split <;> rfl

theorem orders_disconnect : orders c.disconnect.2 = c.ending := by
  rcases Option.eq_none_or_eq_some c.channel with hNone | ⟨held, hHeld⟩
  · rw [disconnect_of_none hNone, orders_cancellation, ending, activeId?, hNone]
    rfl
  · rw [disconnect_of_some hHeld, orders_append, orders_cancellation, ending, activeId?, hHeld]
    rfl

theorem orders_vacate : orders c.vacate.2 = c.ending := by
  rcases Option.eq_none_or_eq_some c.channel with hNone | ⟨held, hHeld⟩
  · rw [vacate_of_none hNone, ending, activeId?, hNone]
    rfl
  · rw [vacate_of_some hHeld, ending, activeId?, hHeld]
    rfl

theorem orders_changeRole (role : Role) (now : Time.Instant) :
    orders (c.changeRole w role now).2 =
      if c.isConnected ∨ c.pending.isSome then c.ending else [] := by
  by_cases hAgain : c.isConnected ∨ c.pending.isSome
  · rw [changeRole_of_again hAgain, orders_append, if_pos hAgain]
    exact (List.append_nil _).trans (orders_disconnect { c with role })
  · rw [if_neg hAgain]
    rw [not_or, Option.not_isSome_iff_eq_none] at hAgain
    rw [changeRole_of_quiet hAgain.1 hAgain.2]
    rfl

theorem orders_onMessage (raw : String) : orders (c.onMessage raw).2 = [] := by
  unfold onMessage
  cases Envelope.decode raw with
  | none => rfl
  | some envelope =>
    simp only
    cases categoryOf envelope.messageTag with
    | none =>
      simp only
      split <;> rfl
    | some category =>
      simp only [adoptIdentity]
      split
      · split <;> rfl
      · rfl

/-- Events order nothing but the end of the channel held, when it was closed. -/
theorem orders_onEvent (e : ChannelEvent) :
    orders (c.onEvent e).2 =
      if c.activeId? = some e.channel ∧ e.isTerminal then [.dropped e.channel] else [] := by
  by_cases hActive : c.activeId? = some e.channel
  · rw [onEvent_of_active e hActive]
    cases e with
    | message id raw =>
      rw [if_neg fun h => Bool.false_ne_true h.2]
      exact orders_onMessage c raw
    | closed id reason =>
      rw [if_pos ⟨hActive, rfl⟩]
      show orders (c.activeId?.toList.map .dropped ++ _) = _
      rw [hActive]
      rfl
    | _ =>
      rw [if_neg fun h => Bool.false_ne_true h.2]
      rfl
  · rw [onEvent_of_other hActive, if_neg fun h => hActive h.1]
    rfl

/-! ## Sending -/

theorem sending_of_offline (h : ¬ c.isConnected) (text : String) :
    c.sending w text = .offline := by
  simp [sending, h]

theorem sending_of_blank (h : c.isConnected) {text : String} (hText : Text.trim text = "") :
    c.sending w text = .blank := by
  simp [sending, h, hText]

theorem sending_of_held (h : c.isConnected) {held : Held} (hHeld : c.channel = some held)
    (hTakes : w.takes held.link) {text : String} (hText : Text.trim text ≠ "") :
    c.sending w text = .sent held.id (Text.trim text) := by
  simp [sending, h, hHeld, hTakes, hText]

end Core

/-! ## Acts -/

/-- Whether an effect ends a channel. -/
def Effect.isEnd : Effect → Bool
  | .closed _ | .dropped _ => true
  | _ => false

theorem Core.isEnd_of_mem_ending (c : Core) : ∀ e ∈ c.ending, e.isEnd := by
  intro e he
  obtain ⟨id, -, rfl⟩ := List.mem_map.mp he
  rfl

theorem Core.isEnd_of_mem_orders_onEvent (c : Core) (e : ChannelEvent) :
    ∀ effect ∈ orders (c.onEvent e).2, effect.isEnd := by
  intro effect hEffect
  rw [c.orders_onEvent] at hEffect
  split at hEffect
  · rw [List.mem_singleton.mp hEffect]
    rfl
  · cases hEffect

/-- What an act does at the gateway: unless it opens a channel or sends a text, the session orders
ends at most. -/
theorem act_gateway (now : Time.Instant) {s : Session} {a : Act} (hPump : a ≠ .pump)
    (hOpens : a.opens? s = none) :
    (∃ policy running, a = .answer policy running) ∨ (∃ l, a = .look l) ∨
      (∃ text, a = .send text) ∨
      ∃ es : List Effect, (∀ e ∈ es, e.isEnd) ∧
        (s.act now a).gateway = es.foldl Gateway.perform s.gateway := by
  cases a with
  | connect role => cases hOpens
  | connectCurrent => cases hOpens
  | answer policy running => exact Or.inl ⟨policy, running, rfl⟩
  | look l => exact Or.inr (Or.inl ⟨l, rfl⟩)
  | send text => exact Or.inr (Or.inr (Or.inl ⟨text, rfl⟩))
  | pump => exact absurd rfl hPump
  | tick reading =>
    refine Or.inr (Or.inr (Or.inr ⟨[], List.forall_mem_nil _, ?_⟩))
    show (s.advance now (s.core.tick s.conditions reading)).gateway = _
    rw [Core.tick_of_not_due hOpens]
    rfl
  | disconnect =>
    refine Or.inr (Or.inr (Or.inr ⟨s.core.ending, s.core.isEnd_of_mem_ending, ?_⟩))
    rw [← Core.orders_disconnect]
    exact advance_gateway_orders now s s.core.disconnect
  | changeRole role changedAt =>
    refine Or.inr (Or.inr (Or.inr ⟨_, ?_, advance_gateway_orders now s _⟩))
    rw [Core.orders_changeRole]
    split
    · exact s.core.isEnd_of_mem_ending
    · exact List.forall_mem_nil _
  | handle e =>
    exact Or.inr (Or.inr (Or.inr ⟨_, s.core.isEnd_of_mem_orders_onEvent e,
      advance_gateway_orders now s _⟩))
  | emit e => exact Or.inr (Or.inr (Or.inr ⟨[], List.forall_mem_nil _, emit_gateway s e⟩))
  | notify text => exact Or.inr (Or.inr (Or.inr ⟨[], List.forall_mem_nil _, rfl⟩))
  | enqueue e => exact Or.inr (Or.inr (Or.inr ⟨[], List.forall_mem_nil _, rfl⟩))

end Session

end ChatConsole
