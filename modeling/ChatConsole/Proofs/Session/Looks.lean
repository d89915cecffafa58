import ChatConsole.Proofs.Gateway.Settled
import ChatConsole.Proofs.Session.Views

/-! # Looking changes nothing

Two sessions that differ in how often their gateways were looked at stay so under whatever is done
to both. A run therefore ends in the same session, but for the pipes of its gateway, when its looks
are left out or made at other times; and no look finds more in a pipe than behind it.
-/

namespace ChatConsole.Session

/-- Whether an act only looks. -/
def Act.isLook : Act → Bool
  | .look _ => true
  | _ => false

/-- The session with a gateway that was looked at everywhere. -/
def settled (s : Session) : Session := { s with gateway := s.gateway.settled }

variable {s t : Session} (now : Time.Instant)

theorem settled_eq_iff :
    s.settled = t.settled ↔
      s.gateway.settled = t.gateway.settled ∧ { s with gateway := t.gateway } = t := by
  obtain ⟨settings, core, queue, transcript, activity, gateway, records⟩ := s
  obtain ⟨settings', core', queue', transcript', activity', gateway', records'⟩ := t
  simp only [settled, Session.mk.injEq, true_and]
  constructor
  · rintro ⟨rfl, rfl, rfl, rfl, rfl, hGateway, rfl⟩
    exact ⟨hGateway, rfl, rfl, rfl, rfl, rfl, rfl⟩
  · rintro ⟨hGateway, rfl, rfl, rfl, rfl, rfl, rfl⟩
    exact ⟨rfl, rfl, rfl, rfl, rfl, hGateway, rfl⟩

theorem gateway_settled (h : s.settled = t.settled) : s.gateway.settled = t.gateway.settled :=
  (settled_eq_iff.mp h).1

theorem queue_eq_of_settled (h : s.settled = t.settled) : s.queue = t.queue :=
  show s.settled.queue = t.settled.queue from congrArg queue h

/-! ## Acts -/

theorem settled_perform (s : Session) (e : Effect) :
    (s.settled.perform now e).settled = (s.perform now e).settled := by
  have hGateway :
      (s.settled.perform now e).gateway.settled = (s.perform now e).gateway.settled := by
    rw [perform_gateway, perform_gateway]
    exact s.gateway.settled_perform e
  refine settled_eq_iff.mpr ⟨hGateway, ?_⟩
  cases e with
  | entry category origin body =>
    simp only [perform, addEntry]
    split <;> rfl
  | _ => rfl

/-- A settled gateway answers requests and takes texts as before. -/
theorem settled_isView : IsView settled where
  core := fun _ => rfl
  conditions := fun _ => rfl
  withCore := fun _ _ => rfl
  perform := fun now => settled_perform now

/-- An act does the same to a session whose gateway was looked at. -/
theorem settled_act (h : s.settled = t.settled) (a : Act) :
    (s.act now a).settled = (t.act now a).settled := by
  have hStep := step?_congr (settled_isView.core_eq h) (settled_isView.conditions_eq h) a
  cases hTaken : a.step? s with
  | some step =>
    rw [act_of_step hTaken, act_of_step (hStep ▸ hTaken)]
    exact settled_isView.advance now h step
  | none =>
    cases a with
    | notify text => exact congrArg (notify now text) h
    | enqueue e => exact congrArg (enqueue e) h
    | emit e =>
      simp only [act, emit, Gateway.knows_eq_of_settled (gateway_settled h)]
      split
      · exact congrArg (enqueue e) h
      · exact h
    | pump =>
      rw [act_pump, act_pump, queue_eq_of_settled h]
      exact settled_isView.handleAll now t.queue (congrArg (fun s => { s with queue := [] }) h)
    | answer policy running =>
      exact congrArg (fun s => { s with gateway := { s.gateway with policy, running } }) h
    | look l =>
      refine settled_eq_iff.mpr ⟨?_, ?_⟩
      · show (l.after s.gateway).settled = (l.after t.gateway).settled
        rw [Gateway.settled_after, Gateway.settled_after, gateway_settled h]
      · exact congrArg (fun u => { u with gateway := l.after t.gateway }) (settled_eq_iff.mp h).2
    | _ => cases hTaken

theorem settled_look (s : Session) {a : Act} (h : a.isLook) :
    (s.act now a).settled = s.settled := by
  cases a with
  | look l => exact settled_eq_iff.mpr ⟨s.gateway.settled_after l, rfl⟩
  | _ => cases h

/-- A run without its looks ends in the same session, up to looking. -/
theorem settled_run (acts : List Timed) {s t : Session} (h : s.settled = t.settled) :
    (s.run acts).settled = (t.run (acts.filter fun a => !a.2.isLook)).settled := by
  induction acts generalizing s t with
  | nil => exact h
  | cons a acts ih =>
    by_cases hLook : a.2.isLook
    · rw [List.filter_cons_of_neg (by simp [hLook]), run_cons]
      exact ih ((settled_look a.1 s hLook).trans h)
    · rw [List.filter_cons_of_pos (by simp [hLook]), run_cons, run_cons]
      exact ih (settled_act a.1 h a.2)

end ChatConsole.Session
