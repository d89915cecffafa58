import ChatConsole.Proofs.Session.Deeds
import ChatConsole.Proofs.Session.Outbound

/-! # Frames

A frame is a text that a session puts out on a channel, whether the gateway keeps a line for the
channel or leaves it to the network. Only calls to send put out frames, each at most one: the text
without the blanks around it, if anything is left of it. What the gateway finds on its lines are
frames of the run.
-/

namespace ChatConsole

namespace Session

/-- A text and the channel that it is put out on. -/
abbrev Sent := ChannelId × String

def Effect.frame? : Effect → Option Sent
  | .sent id text => some (id, text)
  | _ => none

theorem Effect.frame?_eq_some {e : Effect} {id : ChannelId} {text : String} :
    e.frame? = some (id, text) ↔ e = .sent id text := by
  cases e <;> simp [frame?]

/-- The frames of a run, oldest first. -/
def frames (s : Session) (acts : List Timed) : List Sent :=
  (s.deeds acts).filterMap fun d => d.effect.frame?

/-! ## Where frames come from -/

namespace Core

variable {c : Core} {w : Conditions} {id : ChannelId} {text : String}

theorem not_sent_of_orders {es : List Effect} (h : ∀ e ∈ orders es, e.isEnd) :
    Effect.sent id text ∉ es := by
  intro hMem
  have hOrder : Effect.sent id text ∈ orders es := List.mem_filter.mpr ⟨hMem, rfl⟩
  cases h _ hOrder

theorem not_sent_disconnect : Effect.sent id text ∉ c.disconnect.2 := by
  refine not_sent_of_orders ?_
  rw [orders_disconnect]
  exact c.isEnd_of_mem_ending

theorem not_sent_connect {role : Role} : Effect.sent id text ∉ (c.connect w role).2 := by
  have hVacate : Effect.sent id text ∉ c.vacate.2 := by
    refine not_sent_of_orders ?_
    rw [orders_vacate]
    exact c.isEnd_of_mem_ending
  have hOpen : ∀ c : Core, Effect.sent id text ∉ (c.openNext w role).2 := by
    intro c
    cases hMake : OpenRequest.make c.nextId w.endpoint role with
    | error e =>
      rw [openNext_of_rejected hMake]
      simp [Effect.say, Effect.remark]
    | ok request =>
      cases hAnswer : w.answer request with
      | error e =>
        rw [openNext_of_refused hMake hAnswer]
        simp [asking, Effect.say, Effect.remark]
      | ok link =>
        rw [openNext_of_accepted hMake hAnswer]
        cases link <;> simp [asking, acceptance, networkNote, Effect.say]
  rw [connect_eq]
  intro hMem
  rcases List.mem_append.mp hMem with hClosing | hOpening
  · exact hVacate hClosing
  · exact hOpen _ hOpening

theorem not_sent_changeRole {role : Role} {now : Time.Instant} :
    Effect.sent id text ∉ (c.changeRole w role now).2 := by
  refine not_sent_of_orders ?_
  rw [orders_changeRole]
  split
  · exact c.isEnd_of_mem_ending
  · exact List.forall_mem_nil _

theorem not_sent_onEvent {e : ChannelEvent} : Effect.sent id text ∉ (c.onEvent e).2 :=
  not_sent_of_orders (c.isEnd_of_mem_orders_onEvent e)

/-- What a call to send puts out is what was to be sent, without the blanks around it. -/
theorem of_sent_mem_sending {raw : String} (h : Effect.sent id text ∈ (c.sending w raw).effects) :
    text = Text.trim raw ∧ text ≠ "" := by
  unfold sending at h
  simp only at h
  split at h
  · simp [Sending.effects, Effect.remark] at h
  split at h
  · cases h
  · next hText =>
    split at h
    · cases h
    split at h
    · simp only [Sending.effects, Effect.say, List.mem_cons, Effect.sent.injEq, reduceCtorEq,
        List.not_mem_nil, or_false] at h
      obtain ⟨-, rfl⟩ := h
      refine ⟨rfl, ?_⟩
      rwa [String.isEmpty_iff] at hText
    · simp [Sending.effects, Effect.say, Effect.remark] at h

end Core

/-- Nothing but a call to send leaves a text to be put out. -/
theorem send_of_leaves {s : Session} {a : Act} {id : ChannelId} {text : String}
    (h : Leaves s a (.sent id text)) : ∃ raw, a = .send raw ∧ text = Text.trim raw ∧ text ≠ "" := by
  cases h with
  | attempted hOpens hMem => exact absurd hMem Core.not_sent_connect
  | closed hMem => exact absurd hMem Core.not_sent_disconnect
  | changed hMem => exact absurd hMem Core.not_sent_changeRole
  | spoken hMem => exact ⟨_, rfl, Core.of_sent_mem_sending hMem⟩
  | handled hMem => exact absurd hMem Core.not_sent_onEvent

theorem mem_frames {s : Session} {acts : List Timed} {id : ChannelId} {text : String} :
    (id, text) ∈ s.frames acts ↔
      ∃ m ∈ s.moments acts, ∃ d ∈ m.deeds, d.effect = .sent id text := by
  simp only [frames, deeds, List.mem_filterMap, List.mem_flatMap, Effect.frame?_eq_some]
  constructor
  · rintro ⟨d, ⟨m, hMem, hd⟩, hFrame⟩
    exact ⟨m, hMem, d, hd, hFrame⟩
  · rintro ⟨m, hMem, d, hd, hFrame⟩
    exact ⟨d, ⟨m, hMem, hd⟩, hFrame⟩

/-- A frame is what a call to send of the run was made with, without the blanks around it. -/
theorem exists_send_of_mem_frames {s : Session} {acts : List Timed} {id : ChannelId}
    {text : String} (h : (id, text) ∈ s.frames acts) :
    ∃ a ∈ acts, ∃ raw, a.2 = .send raw ∧ text = Text.trim raw ∧ text ≠ "" := by
  obtain ⟨m, hMem, d, hd, hFrame⟩ := mem_frames.mp h
  obtain ⟨-, hSource, hPump⟩ := moment_keeps (P := fun _ => True)
    (A := fun a => ∀ raw, a = .send raw → ∃ b ∈ acts, b.2 = .send raw)
    (fun _ _ hSend => by cases hSend) (fun _ _ _ => trivial) (fun _ _ _ _ _ _ => trivial)
    (fun a ha _ hSend => ⟨a, ha, hSend⟩) trivial hMem
  obtain ⟨-, hLeaves⟩ := leaves_of_mem_deeds hPump hd
  rw [hFrame] at hLeaves
  obtain ⟨raw, hSend, hText, hNonempty⟩ := send_of_leaves hLeaves
  obtain ⟨a, ha, hAct⟩ := hSource raw hSend
  exact ⟨a, ha, raw, hAct, hText, hNonempty⟩

end Session

/-! ## What the gateway finds -/

namespace Gateway

variable {g : Gateway} {id : ChannelId} {text : String}

theorem mem_sent_deliver {k : ChannelId} {t : String} (h : text ∈ ((g.deliver k t).sent id).1) :
    text ∈ (g.sent id).1 ∨ (k = id ∧ t = text) := by
  rw [sent_eq, deliver] at h
  rw [sent_eq]
  by_cases hk : k = id
  · subst hk
    rw [line?_onPipe] at h
    cases hLine : g.line? k with
    | none =>
      rw [hLine] at h
      cases h
    | some line =>
      rw [hLine] at h
      by_cases hReceiver : line.pipe.receiverHeld
      · rw [Option.map_some, Option.map_some, line.account_send hReceiver] at h
        rcases List.mem_append.mp h with hBefore | hNew
        · exact Or.inl hBefore
        · exact Or.inr ⟨rfl, (List.mem_singleton.mp hNew).symm⟩
      · -- nobody would take it out
        have hSame : (line.pipe.send t).toOption.getD line.pipe = line.pipe := by
          unfold Pipe.send
          rw [if_neg hReceiver]
          rfl
        rw [Option.map_some, Option.map_some, hSame] at h
        exact Or.inl h
  · rw [line?_onPipe_of_ne g hk] at h
    exact Or.inl h

theorem mem_sent_perform {e : Session.Effect} (h : text ∈ ((g.perform e).sent id).1) :
    text ∈ (g.sent id).1 ∨ e = .sent id text := by
  cases e with
  | opened request link => exact Or.inl (g.sent_accept request link id ▸ h)
  | sent k t =>
    rcases mem_sent_deliver h with hBefore | ⟨rfl, rfl⟩
    · exact Or.inl hBefore
    · exact Or.inr rfl
  | closed k => exact Or.inl (g.sent_onPipe k id (fun line => by rw [line.account_close]) ▸ h)
  | dropped k => exact Or.inl (g.sent_onPipe k id (fun line => by rw [line.account_drop]) ▸ h)
  | _ => exact Or.inl h

theorem mem_sent_foldl {es : List Session.Effect} (h : text ∈ ((es.foldl perform g).sent id).1) :
    text ∈ (g.sent id).1 ∨ .sent id text ∈ es := by
  induction es generalizing g with
  | nil => exact Or.inl h
  | cons e es ih =>
    rcases ih h with hBefore | hLater
    · rcases mem_sent_perform hBefore with hFirst | rfl
      · exact Or.inl hFirst
      · exact Or.inr List.mem_cons_self
    · exact Or.inr (List.mem_cons_of_mem _ hLater)

end Gateway

namespace Session

/-- A text that an act lets the gateway find was put out at its moment. -/
theorem mem_sent_act {now : Time.Instant} {s : Session} {a : Act} (hPump : a ≠ .pump)
    {id : ChannelId} {text : String} (h : text ∈ ((s.act now a).gateway.sent id).1) :
    text ∈ (s.gateway.sent id).1 ∨ ∃ d ∈ Moment.deeds ⟨s, now, a⟩, d.effect = .sent id text := by
  cases hTaken : a.step? s with
  | some step =>
    rw [act_of_step hTaken, advance_gateway] at h
    refine (Gateway.mem_sent_foldl h).imp_right fun hMem => ?_
    have hDeed : ⟨now, .sent id text⟩ ∈ Moment.deeds ⟨s, now, a⟩ :=
      (Moment.mem_deeds (Call.step?_of_act hTaken)).mpr ⟨rfl, hMem⟩
    exact ⟨_, hDeed, rfl⟩
  | none =>
    refine Or.inl ?_
    cases a with
    | emit e =>
      have hSame : (s.act now (.emit e)).gateway = s.gateway := emit_gateway s e
      rwa [hSame] at h
    | look l => exact Gateway.sent_eq_of_settled (s.gateway.settled_after l) id ▸ h
    | pump => exact absurd rfl hPump
    | notify line => exact h
    | enqueue e => exact h
    | answer policy running => exact h
    | _ => cases hTaken

/-- Whatever a gateway finds on its lines after a run that it had not found before is a frame of the
run. -/
theorem mem_frames_of_mem_sent (s : Session) (acts : List Timed) {id : ChannelId} {text : String}
    (h : text ∈ ((s.run acts).gateway.sent id).1) :
    text ∈ (s.gateway.sent id).1 ∨ (id, text) ∈ s.frames acts := by
  suffices hAll : text ∈ (s.gateway.sent id).1 ∨
      ∃ m ∈ [] ++ s.moments acts, ∃ d ∈ m.deeds, d.effect = .sent id text from
    hAll.imp_right mem_frames.mpr
  refine run_keeps_moments (A := fun _ => True)
    (P := fun t ms => text ∈ (t.gateway.sent id).1 → text ∈ (s.gateway.sent id).1 ∨
      ∃ m ∈ ms, ∃ d ∈ m.deeds, d.effect = .sent id text)
    (fun _ => trivial) (fun _ _ _ h => h) ?_ acts (fun _ _ => trivial) s [] Or.inl h
  intro now t ms a hPump _ hBefore hText
  rcases mem_sent_act hPump hText with hOld | ⟨d, hd, hFrame⟩
  · refine (hBefore hOld).imp_right ?_
    rintro ⟨m, hMem, hDeed⟩
    exact ⟨m, List.mem_append_left _ hMem, hDeed⟩
  · exact Or.inr ⟨⟨t, now, a⟩, List.mem_append_right _ List.mem_cons_self, d, hd, hFrame⟩

end Session

end ChatConsole
