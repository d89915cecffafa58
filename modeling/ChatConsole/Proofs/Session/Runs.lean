import ChatConsole.Proofs.Session.Effects

/-! # Runs of a session

A run is a list of acts, each at its own reading of the clock: what the user asks for, events that
come in or are taken in, a gateway that from now on answers in another way, and looks at what the
gateway has received. Nothing is said about the order, so a theorem about all runs holds of every
interleaving of a user, a gateway and the channels.
-/

namespace ChatConsole.Session

/-- A look at what the gateway has received. -/
inductive Look
  | sent (channel : ChannelId)
  | closed (channel : ChannelId)
  | live
  deriving DecidableEq

/-- One act of a run. -/
inductive Act
  | connect (role : Role)
  | connectCurrent
  | disconnect
  | changeRole (role : Role) (changedAt : Time.Instant)
  | tick (reading : Time.Instant)
  | send (text : String)
  | notify (text : String)
  | handle (e : ChannelEvent)
  | enqueue (e : ChannelEvent)
  | emit (e : ChannelEvent)
  | pump
  /-- From now on the gateway answers open requests in this way, and its network runs or not. -/
  | answer (policy : Policy) (running : Bool)
  | look (l : Look)
  deriving DecidableEq

/-- An act and the reading of the clock at which it is done. -/
abbrev Timed := Time.Instant × Act

/-- The gateway after a look. -/
def Look.after (g : Gateway) : Look → Gateway
  | .sent id => (g.sent id).2
  | .closed id => (g.closedByClient id).2
  | .live => g.liveCount.2

/-- The session after an act. -/
def act (now : Time.Instant) (s : Session) : Act → Session
  | .connect role => s.connect now role
  | .connectCurrent => s.connectCurrent now
  | .disconnect => s.disconnect now
  | .changeRole role changedAt => s.changeRole now role changedAt
  | .tick reading => (s.tick now reading).2
  | .send text => (s.send now text).2
  | .notify text => s.notify now text
  | .handle e => s.handle now e
  | .enqueue e => s.enqueue e
  | .emit e => s.emit e
  | .pump => (s.pump now).2
  | .answer policy running => { s with gateway := { s.gateway with policy, running } }
  | .look l => { s with gateway := l.after s.gateway }

/-- The step of the core that an act is carried out by, if it is. -/
def Act.step? (s : Session) : Act → Option Step
  | .connect role => some (s.core.connect s.conditions role)
  | .connectCurrent => some (s.core.connect s.conditions s.core.role)
  | .disconnect => some s.core.disconnect
  | .changeRole role changedAt => some (s.core.changeRole s.conditions role changedAt)
  | .tick reading => some (s.core.tick s.conditions reading)
  | .send text => some (s.core, (s.core.sending s.conditions text).effects)
  | .handle e => some (s.core.onEvent e)
  | .notify _ | .enqueue _ | .emit _ | .pump | .answer .. | .look _ => none

theorem act_of_step {now : Time.Instant} {s : Session} {a : Act} {step : Step}
    (h : a.step? s = some step) : s.act now a = s.advance now step := by
  cases a <;> cases h <;> rfl

/-- The step depends on the core and on what the core sees of the world. -/
theorem step?_congr {s t : Session} (hCore : s.core = t.core) (hWorld : s.conditions = t.conditions)
    (a : Act) : a.step? s = a.step? t := by
  cases a <;> simp only [Act.step?, hCore, hWorld]

/-- The session after a run. -/
def run (s : Session) (acts : List Timed) : Session :=
  acts.foldl (fun s a => s.act a.1 a.2) s

@[simp] theorem run_nil (s : Session) : s.run [] = s := rfl

@[simp] theorem run_cons (s : Session) (a : Timed) (acts : List Timed) :
    s.run (a :: acts) = (s.act a.1 a.2).run acts := rfl

theorem run_append (s : Session) (acts acts' : List Timed) :
    s.run (acts ++ acts') = (s.run acts).run acts' := List.foldl_append

/-- Events are handled in order. -/
def handleAll (now : Time.Instant) (s : Session) (es : List ChannelEvent) : Session :=
  es.foldl (handle now) s

theorem act_pump (now : Time.Instant) (s : Session) :
    s.act now .pump = handleAll now { s with queue := [] } s.queue := rfl

theorem handleAll_keeps {P : Session → Prop} (now : Time.Instant)
    (hHandle : ∀ s e, P s → P (s.handle now e)) (es : List ChannelEvent) (s : Session) (h : P s) :
    P (handleAll now s es) := by
  induction es generalizing s with
  | nil => exact h
  | cons e es ih => exact ih _ (hHandle s e h)

/-- No act changes the settings. -/
@[simp] theorem act_settings (now : Time.Instant) (s : Session) (a : Act) :
    (s.act now a).settings = s.settings := by
  cases hTaken : a.step? s with
  | some step => rw [act_of_step hTaken, advance_settings]
  | none =>
    cases a with
    | emit e =>
      show (s.emit e).settings = s.settings
      unfold emit
      split <;> rfl
    | pump =>
      rw [act_pump]
      exact handleAll_keeps (P := fun t => t.settings = s.settings) now
        (fun t _ ht => (advance_settings now t _).trans ht) s.queue _ rfl
    | notify text => rfl
    | enqueue e => rfl
    | answer policy running => rfl
    | look l => rfl
    | _ => cases hTaken

@[simp] theorem run_settings (acts : List Timed) (s : Session) :
    (s.run acts).settings = s.settings := by
  induction acts generalizing s with
  | nil => rfl
  | cons a acts ih => rw [run_cons, ih, act_settings]

end ChatConsole.Session
