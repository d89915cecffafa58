import ChatConsole.Proofs.Session.Runs

/-! # The moments of a run

A run at its finest grain: each act together with the session that it is done to, where the events
that are taken in at once count one by one. Statements about what happened earlier in a run, such as
that a channel was opened before a text was sent, are statements about the list of its moments.
-/

namespace ChatConsole.Session

/-- An act and the session that it is done to. -/
structure Moment where
  session : Session
  now : Time.Instant
  act : Act

/-- The moments at which events are handled in order. -/
def momentsOf (now : Time.Instant) : Session → List ChannelEvent → List Moment
  | _, [] => []
  | s, e :: es => ⟨s, now, .handle e⟩ :: momentsOf now (s.handle now e) es

/-- The moments of a run. -/
def moments : Session → List Timed → List Moment
  | _, [] => []
  | s, (now, a) :: acts =>
    (if a = .pump then momentsOf now { s with queue := [] } s.queue else [⟨s, now, a⟩]) ++
      moments (s.act now a) acts

/-- **Induction over the moments of a run.** A relation between a session and the moments that led
to it is kept by a run once each moment keeps it. -/
theorem run_keeps_moments {P : Session → List Moment → Prop} {A : Act → Prop}
    (hEvents : ∀ e, A (.handle e)) (hQueue : ∀ s ms queue, P s ms → P { s with queue } ms)
    (hAct : ∀ now s ms a, a ≠ .pump → A a → P s ms → P (s.act now a) (ms ++ [⟨s, now, a⟩]))
    (acts : List Timed) (hActs : ∀ a ∈ acts, A a.2) (s : Session) (ms : List Moment) (h : P s ms) :
    P (s.run acts) (ms ++ s.moments acts) := by
  have hHandleAll : ∀ now es s ms, P s ms → P (handleAll now s es) (ms ++ momentsOf now s es) := by
    intro now es
    induction es with
    | nil => exact fun s ms h => by rwa [momentsOf, List.append_nil]
    | cons e es ih =>
      intro s ms h
      have hHead := hAct now s ms (.handle e) (by simp) (hEvents e) h
      have hTail := ih _ _ hHead
      rwa [List.append_assoc, List.singleton_append] at hTail
  induction acts generalizing s ms with
  | nil => rwa [moments, List.append_nil]
  | cons a acts ih =>
    obtain ⟨now, a⟩ := a
    have hRest := fun b hb => hActs b (List.mem_cons_of_mem _ hb)
    rw [moments, ← List.append_assoc]
    refine ih hRest _ _ ?_
    by_cases ha : a = .pump
    · rw [if_pos ha, ha]
      exact hHandleAll now s.queue _ _ (hQueue s ms [] h)
    · rw [if_neg ha]
      exact hAct now s ms a ha (hActs (now, a) List.mem_cons_self) h

/-- What each moment keeps holds of every moment of a run and of the moments before it. -/
theorem moments_keep {P : Session → List Moment → Prop} {A : Act → Prop}
    (hEvents : ∀ e, A (.handle e)) (hQueue : ∀ s ms queue, P s ms → P { s with queue } ms)
    (hAct : ∀ now s ms a, a ≠ .pump → A a → P s ms → P (s.act now a) (ms ++ [⟨s, now, a⟩]))
    {acts : List Timed} (hActs : ∀ a ∈ acts, A a.2) {s : Session} (h : P s [])
    {before after : List Moment} {m : Moment} (hSplit : s.moments acts = before ++ m :: after) :
    P m.session before := by
  refine (run_keeps_moments (A := A)
    (P := fun t ms => P t ms ∧ ∀ (before : List Moment) (m : Moment) (after : List Moment),
      ms = before ++ m :: after → P m.session before)
    hEvents (fun t ms queue ht => ⟨hQueue t ms queue ht.1, ht.2⟩) ?_ acts hActs s []
    ⟨h, by simp⟩).2 before m after hSplit
  rintro now t ms a hPump ha ⟨ht, hEach⟩
  refine ⟨hAct now t ms a hPump ha ht, fun before m after hSplit => ?_⟩
  rcases List.eq_nil_or_concat after with rfl | ⟨after', last, rfl⟩
  · obtain ⟨rfl, hLast⟩ := List.append_inj' hSplit rfl
    obtain rfl := List.singleton_inj.mp hLast
    exact ht
  · have hInit : ms ++ [⟨t, now, a⟩] = (before ++ m :: after') ++ [last] := by simpa using hSplit
    exact hEach before m after' (List.append_inj' hInit rfl).1

/-- **Induction over a run.** `A` says which acts the run is made of. -/
theorem run_keeps {P : Session → Prop} {A : Act → Prop} (hEvents : ∀ e, A (.handle e))
    (hQueue : ∀ s queue, P s → P { s with queue })
    (hAct : ∀ now s a, a ≠ .pump → A a → P s → P (s.act now a))
    (acts : List Timed) (hActs : ∀ a ∈ acts, A a.2) (s : Session) (h : P s) : P (s.run acts) :=
  run_keeps_moments (P := fun s _ => P s) hEvents (fun s _ => hQueue s)
    (fun now s _ => hAct now s) acts hActs s [] h

end ChatConsole.Session
