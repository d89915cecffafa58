import ChatConsole.Proofs.Session.Runs

/-! # The chronicle of a session

The handlers of events can also be called for no event, on a session with or without a channel.
`Call` adds such calls to the acts of a run. The chronicle of some calls lists all that was done on
their behalf, effect by effect, each with the reading of the clock. It is read off the steps of the
core and knows nothing of what a session keeps of them.
-/

namespace ChatConsole.Session

/-- An act, or a handler of events that is called for no event. -/
inductive Call
  | act (a : Act)
  | opened
  | message (raw : String)
  | closed (reason : Option String)
  | failed (description : String)
  deriving DecidableEq

/-- A call and the reading of the clock at which it is made. -/
abbrev TimedCall := Time.Instant × Call

/-- The session after a call. -/
def call (now : Time.Instant) (s : Session) : Call → Session
  | .act a => s.act now a
  | .opened => s.advance now s.core.onOpened
  | .message raw => s.advance now (s.core.onMessage raw)
  | .closed reason => s.advance now (s.core.onClosed reason)
  | .failed description => s.advance now (s.core.onFailed description)

/-- The session after some calls. -/
def calls (s : Session) (cs : List TimedCall) : Session := cs.foldl (fun s c => s.call c.1 c.2) s

/-- The step that a call is carried out by, if it is. To notify is a step that leaves the core as it
is. -/
def Call.step? (s : Session) : Call → Option Step
  | .act (.notify text) => some (s.core, [.notice text])
  | .act a => a.step? s
  | .opened => some s.core.onOpened
  | .message raw => some (s.core.onMessage raw)
  | .closed reason => some (s.core.onClosed reason)
  | .failed description => some (s.core.onFailed description)

theorem call_of_step {now : Time.Instant} {s : Session} {c : Call} {step : Step}
    (h : c.step? s = some step) : s.call now c = s.advance now step := by
  cases c with
  | act a => cases a <;> cases h <;> rfl
  | _ =>
    cases h
    rfl

/-- The step depends on the core and on what the core sees of the world. -/
theorem Call.step?_congr {s t : Session} (hCore : s.core = t.core)
    (hWorld : s.conditions = t.conditions) (c : Call) : c.step? s = c.step? t := by
  cases c with
  | act a => cases a <;> simp only [Call.step?, Act.step?, hCore, hWorld]
  | _ => simp only [Call.step?, hCore]

/-! ## What is done -/

/-- An effect and the reading of the clock at which it is carried out. -/
structure Deed where
  now : Time.Instant
  effect : Effect

/-- What is done when events are handled in order. -/
def deedsOfEvents (now : Time.Instant) : Session → List ChannelEvent → List Deed
  | _, [] => []
  | s, e :: es => (s.core.onEvent e).2.map (.mk now) ++ deedsOfEvents now (s.handle now e) es

/-- What is done on behalf of a call. -/
def Call.deeds (now : Time.Instant) (s : Session) : Call → List Deed
  | .act .pump => deedsOfEvents now { s with queue := [] } s.queue
  | c => ((c.step? s).map fun step => step.2.map (.mk now)).getD []

/-- What is done on behalf of some calls, oldest first. -/
def chronicle : Session → List TimedCall → List Deed
  | _, [] => []
  | s, (now, c) :: cs => c.deeds now s ++ (s.call now c).chronicle cs

theorem Call.deeds_of_step {now : Time.Instant} {s : Session} {c : Call} {step : Step}
    (h : c.step? s = some step) : c.deeds now s = step.2.map (.mk now) := by
  unfold deeds
  split
  · cases h
  · rw [h]
    rfl

/-- **Induction along a chronicle.** A relation between a session and what was done so far is kept
by all calls once each effect keeps it and it speaks neither of the core, nor of the events that
wait, nor of the gateway. -/
theorem calls_keep {P : Session → List Deed → Prop}
    (hCore : ∀ s ds core, P s ds → P { s with core } ds)
    (hQueue : ∀ s ds queue, P s ds → P { s with queue } ds)
    (hGateway : ∀ s ds gateway, P s ds → P { s with gateway } ds)
    (hPerform : ∀ now s ds e, P s ds → P (s.perform now e) (ds ++ [⟨now, e⟩]))
    (cs : List TimedCall) (s : Session) (ds : List Deed) (h : P s ds) :
    P (s.calls cs) (ds ++ s.chronicle cs) := by
  have hEffects : ∀ now (es : List Effect) s ds, P s ds →
      P (es.foldl (perform now) s) (ds ++ es.map (.mk now)) := by
    intro now es
    induction es with
    | nil => exact fun s ds h => by rwa [List.map_nil, List.append_nil]
    | cons e es ih =>
      intro s ds h
      have hRest := ih _ _ (hPerform now s ds e h)
      rwa [List.append_assoc, List.singleton_append] at hRest
  have hAdvance : ∀ now s ds (step : Step), P s ds →
      P (s.advance now step) (ds ++ step.2.map (.mk now)) :=
    fun now s ds step h => hEffects now step.2 _ ds (hCore s ds step.1 h)
  have hEvents : ∀ now es s ds, P s ds → P (handleAll now s es) (ds ++ deedsOfEvents now s es) := by
    intro now es
    induction es with
    | nil => exact fun s ds h => by rwa [deedsOfEvents, List.append_nil]
    | cons e es ih =>
      intro s ds h
      rw [deedsOfEvents, ← List.append_assoc]
      exact ih _ _ (hAdvance now s ds (s.core.onEvent e) h)
  have hCall : ∀ now s ds (c : Call), P s ds → P (s.call now c) (ds ++ c.deeds now s) := by
    intro now s ds c h
    cases hTaken : c.step? s with
    | some step =>
      rw [call_of_step hTaken, Call.deeds_of_step hTaken]
      exact hAdvance now s ds step h
    | none =>
      have hNothing : P (s.call now c) ds → c ≠ .act .pump →
          P (s.call now c) (ds ++ c.deeds now s) := by
        intro hSame hPump
        have hNone : c.deeds now s = [] := by
          unfold Call.deeds
          split
          · exact absurd rfl hPump
          · rw [hTaken]
            rfl
        rwa [hNone, List.append_nil]
      cases c with
      | act a =>
        cases a with
        | pump => exact hEvents now s.queue _ ds (hQueue s ds [] h)
        | enqueue e => exact hNothing (hQueue s ds _ h) (by simp)
        | emit e =>
          refine hNothing ?_ (by simp)
          show P (s.emit e) ds
          unfold emit
          split
          · exact hQueue s ds _ h
          · exact h
        | answer policy running => exact hNothing (hGateway s ds _ h) (by simp)
        | look l => exact hNothing (hGateway s ds _ h) (by simp)
        | _ => cases hTaken
      | _ => cases hTaken
  induction cs generalizing s ds with
  | nil => rwa [chronicle, List.append_nil]
  | cons c cs ih =>
    rw [chronicle, ← List.append_assoc]
    exact ih _ _ (hCall c.1 s ds c.2 h)

end ChatConsole.Session
