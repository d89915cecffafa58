import ChatConsole.Session.Basic

/-! # What a step reaches

A step of the core is carried out effect by effect. This file says which part of a session an
effect reaches: the core, the settings and the waiting events are reached by none, the gateway only
by those of `Gateway.perform`. What the core sees of the world therefore stays the same from the
first effect of a step to its last.
-/

namespace ChatConsole

namespace Gateway

/-- What an effect does at the gateway. -/
def perform (g : Gateway) : Session.Effect → Gateway
  | .opened request link => g.accept request link
  | .sent id text => g.deliver id text
  | .closed id => g.close id
  | .dropped id => g.drop id
  | .entry .. | .wipe | .notice _ | .note _ => g

@[simp] theorem accept_policy (g : Gateway) (request : OpenRequest) (link : Link) :
    (g.accept request link).policy = g.policy := by
  cases link <;> rfl

@[simp] theorem accept_running (g : Gateway) (request : OpenRequest) (link : Link) :
    (g.accept request link).running = g.running := by
  cases link <;> rfl

@[simp] theorem perform_policy (g : Gateway) (e : Session.Effect) :
    (g.perform e).policy = g.policy := by
  cases e with
  | opened request link => exact accept_policy g request link
  | _ => rfl

@[simp] theorem perform_running (g : Gateway) (e : Session.Effect) :
    (g.perform e).running = g.running := by
  cases e with
  | opened request link => exact accept_running g request link
  | _ => rfl

theorem foldl_perform_policy (es : List Session.Effect) (g : Gateway) :
    (es.foldl perform g).policy = g.policy := by
  induction es generalizing g with
  | nil => rfl
  | cons e es ih => rw [List.foldl_cons, ih, perform_policy]

theorem foldl_perform_running (es : List Session.Effect) (g : Gateway) :
    (es.foldl perform g).running = g.running := by
  induction es generalizing g with
  | nil => rfl
  | cons e es ih => rw [List.foldl_cons, ih, perform_running]

end Gateway

namespace Session

variable (now : Time.Instant) (s : Session)

/-! ## One effect -/

@[simp] theorem addEntry_core (entry : Entry) : (s.addEntry now entry).core = s.core := by
  unfold addEntry
  split <;> rfl

@[simp] theorem addEntry_settings (entry : Entry) :
    (s.addEntry now entry).settings = s.settings := by
  unfold addEntry
  split <;> rfl

@[simp] theorem addEntry_queue (entry : Entry) : (s.addEntry now entry).queue = s.queue := by
  unfold addEntry
  split <;> rfl

@[simp] theorem addEntry_gateway (entry : Entry) :
    (s.addEntry now entry).gateway = s.gateway := by
  unfold addEntry
  split <;> rfl

theorem addEntry_transcript (entry : Entry) :
    (s.addEntry now entry).transcript = s.transcript.append entry := by
  unfold addEntry
  split <;> rfl

theorem perform_core (e : Effect) : (s.perform now e).core = s.core := by
  cases e with
  | entry category origin body => exact addEntry_core now s _
  | _ => rfl

theorem perform_settings (e : Effect) : (s.perform now e).settings = s.settings := by
  cases e with
  | entry category origin body => exact addEntry_settings now s _
  | _ => rfl

theorem perform_queue (e : Effect) : (s.perform now e).queue = s.queue := by
  cases e with
  | entry category origin body => exact addEntry_queue now s _
  | _ => rfl

theorem perform_gateway (e : Effect) : (s.perform now e).gateway = s.gateway.perform e := by
  cases e with
  | entry category origin body => exact addEntry_gateway now s _
  | _ => rfl

theorem emit_core (e : ChannelEvent) : (s.emit e).core = s.core := by
  unfold emit
  split <;> rfl

theorem emit_gateway (e : ChannelEvent) : (s.emit e).gateway = s.gateway := by
  unfold emit
  split <;> rfl

/-! ## A whole step -/

/-- A part of a session that no effect reaches is the same after all of them. -/
theorem foldl_perform_eq {α : Type} (part : Session → α)
    (hPart : ∀ s e, part (perform now s e) = part s) (es : List Effect) :
    part (es.foldl (perform now) s) = part s := by
  induction es generalizing s with
  | nil => rfl
  | cons e es ih => rw [List.foldl_cons, ih, hPart]

@[simp] theorem advance_core (step : Step) : (s.advance now step).core = step.1 :=
  foldl_perform_eq now _ core (perform_core now) step.2

@[simp] theorem advance_settings (step : Step) : (s.advance now step).settings = s.settings :=
  foldl_perform_eq now _ settings (perform_settings now) step.2

@[simp] theorem advance_queue (step : Step) : (s.advance now step).queue = s.queue :=
  foldl_perform_eq now _ queue (perform_queue now) step.2

theorem advance_gateway (step : Step) :
    (s.advance now step).gateway = step.2.foldl Gateway.perform s.gateway := by
  suffices h : ∀ (es : List Effect) (s : Session),
      (es.foldl (perform now) s).gateway = es.foldl Gateway.perform s.gateway from h step.2 _
  intro es
  induction es with
  | nil => exact fun _ => rfl
  | cons e es ih => intro s; rw [List.foldl_cons, ih, perform_gateway, List.foldl_cons]

/-- No step changes what the core sees of the world. -/
@[simp] theorem advance_conditions (step : Step) :
    (s.advance now step).conditions = s.conditions := by
  have hTakes : ∀ g : Gateway, g.policy = s.gateway.policy → g.running = s.gateway.running →
      g.answer = s.gateway.answer ∧ g.takes = s.gateway.takes := by
    intro g hPolicy hRunning
    constructor
    · unfold Gateway.answer
      rw [hPolicy]
    · funext link
      cases link <;> simp only [Gateway.takes, hRunning]
  obtain ⟨hAnswer, hTakes⟩ := hTakes (s.advance now step).gateway
    (by rw [advance_gateway, Gateway.foldl_perform_policy])
    (by rw [advance_gateway, Gateway.foldl_perform_running])
  simp only [conditions, advance_settings, hAnswer, hTakes]

/-- Two steps in a row are one step with the effects of both. -/
theorem advance_advance (c c' : Core) (es es' : List Effect) :
    (s.advance now (c, es)).advance now (c', es') = s.advance now (c', es ++ es') := by
  suffices h : ∀ (es : List Effect) (s : Session),
      { es.foldl (perform now) s with core := c' } =
        es.foldl (perform now) { s with core := c' } by
    simp only [advance, List.foldl_append]
    rw [h]
  intro es
  induction es with
  | nil => exact fun _ => rfl
  | cons e es ih =>
    intro s
    rw [List.foldl_cons, List.foldl_cons, ih]
    congr 1
    cases e with
    | entry category origin body =>
      simp only [perform, addEntry]
      split <;> rfl
    | _ => rfl

end Session

end ChatConsole
