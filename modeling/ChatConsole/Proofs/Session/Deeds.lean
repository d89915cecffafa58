import ChatConsole.Proofs.Session.Attempts
import ChatConsole.Proofs.Session.Chronicle
import ChatConsole.Proofs.Session.Moments

/-! # The deeds of a run

A run is a chronicle of calls that are all acts, and a list of moments at which events count one by
one. Both tell the same deeds in the same order, so what is said of each moment of a run is said of
all that is done in it.
-/

namespace ChatConsole.Session

/-- An act as a call. -/
def Call.ofAct (a : Timed) : TimedCall := (a.1, .act a.2)

theorem calls_ofAct (acts : List Timed) (s : Session) :
    s.calls (acts.map Call.ofAct) = s.run acts := by
  induction acts generalizing s with
  | nil => rfl
  | cons a acts ih => exact ih (s.act a.1 a.2)

/-- A call is carried out by the step of its act; only a note has none as an act. -/
theorem Call.step?_of_act {s : Session} {a : Act} {step : Step} (h : a.step? s = some step) :
    (Call.act a).step? s = some step := by
  cases a with
  | notify text => cases h
  | _ => exact h

/-- What is done at a moment. -/
def Moment.deeds (m : Moment) : List Deed := (Call.act m.act).deeds m.now m.session

/-- What is done in a run, oldest first. -/
def deeds (s : Session) (acts : List Timed) : List Deed := (s.moments acts).flatMap Moment.deeds

theorem deedsOfEvents_eq (now : Time.Instant) (es : List ChannelEvent) (s : Session) :
    deedsOfEvents now s es = (momentsOf now s es).flatMap Moment.deeds := by
  induction es generalizing s with
  | nil => rfl
  | cons e es ih =>
    rw [deedsOfEvents, momentsOf, List.flatMap_cons, ih]
    rfl

theorem chronicle_ofAct (acts : List Timed) (s : Session) :
    s.chronicle (acts.map Call.ofAct) = s.deeds acts := by
  induction acts generalizing s with
  | nil => rfl
  | cons a acts ih =>
    obtain ⟨now, a⟩ := a
    have hRest : (s.call now (.act a)).chronicle (acts.map Call.ofAct) =
        (s.act now a).deeds acts := ih (s.act now a)
    have hHere : (Call.act a).deeds now s =
        (if a = .pump then momentsOf now { s with queue := [] } s.queue
          else [⟨s, now, a⟩]).flatMap Moment.deeds := by
      by_cases hPump : a = .pump
      · rw [if_pos hPump, hPump]
        exact deedsOfEvents_eq now s.queue _
      · rw [if_neg hPump, List.flatMap_singleton]
        rfl
    rw [List.map_cons, Call.ofAct, chronicle, hRest, hHere, deeds, deeds, moments,
      List.flatMap_append]

/-- What is done at a moment is what its step leaves to do. -/
theorem Moment.mem_deeds {m : Moment} {step : Step}
    (h : (Call.act m.act).step? m.session = some step) {d : Deed} :
    d ∈ m.deeds ↔ d.now = m.now ∧ d.effect ∈ step.2 := by
  rw [deeds, Call.deeds_of_step h, List.mem_map]
  constructor
  · rintro ⟨e, hMem, rfl⟩
    exact ⟨rfl, hMem⟩
  · rintro ⟨hNow, hMem⟩
    exact ⟨d.effect, hMem, by rw [← hNow]⟩

/-- What an act can leave to do, unless it takes in all events that wait. -/
inductive Leaves (s : Session) : Act → Effect → Prop
  /-- A channel is attempted. -/
  | attempted {a : Act} {role : Role} {e : Effect} (opens : a.opens? s = some role)
      (mem : e ∈ (s.core.connect s.conditions role).2) : Leaves s a e
  | closed {e : Effect} (mem : e ∈ s.core.disconnect.2) : Leaves s .disconnect e
  | changed {role : Role} {changedAt : Time.Instant} {e : Effect}
      (mem : e ∈ (s.core.changeRole s.conditions role changedAt).2) :
      Leaves s (.changeRole role changedAt) e
  | spoken {text : String} {e : Effect} (mem : e ∈ (s.core.sending s.conditions text).effects) :
      Leaves s (.send text) e
  | handled {event : ChannelEvent} {e : Effect} (mem : e ∈ (s.core.onEvent event).2) :
      Leaves s (.handle event) e
  | noted {text : String} : Leaves s (.notify text) (.notice text)

theorem leaves_of_step {s : Session} {a : Act} {step : Step}
    (h : (Call.act a).step? s = some step) {e : Effect} (hMem : e ∈ step.2) : Leaves s a e := by
  cases a with
  | connect role =>
    obtain rfl := Option.some.inj h
    exact .attempted rfl hMem
  | connectCurrent =>
    obtain rfl := Option.some.inj h
    exact .attempted rfl hMem
  | tick reading =>
    obtain rfl := Option.some.inj h
    cases hDue : s.core.dueRole? reading with
    | none =>
      rw [Core.tick_of_not_due hDue] at hMem
      cases hMem
    | some role =>
      rw [Core.tick_of_due hDue] at hMem
      exact .attempted hDue hMem
  | disconnect =>
    obtain rfl := Option.some.inj h
    exact .closed hMem
  | changeRole role changedAt =>
    obtain rfl := Option.some.inj h
    exact .changed hMem
  | send text =>
    obtain rfl := Option.some.inj h
    exact .spoken hMem
  | handle event =>
    obtain rfl := Option.some.inj h
    exact .handled hMem
  | notify text =>
    obtain rfl := Option.some.inj h
    obtain rfl := List.mem_singleton.mp hMem
    exact .noted
  | _ => cases h

/-- Whatever is done at a moment is left to do by its act. -/
theorem leaves_of_mem_deeds {s : Session} {now : Time.Instant} {a : Act} (hPump : a ≠ .pump)
    {d : Deed} (h : d ∈ Moment.deeds ⟨s, now, a⟩) : d.now = now ∧ Leaves s a d.effect := by
  cases hTaken : (Call.act a).step? s with
  | some step =>
    obtain ⟨hNow, hMem⟩ := (Moment.mem_deeds hTaken).mp h
    exact ⟨hNow, leaves_of_step hTaken hMem⟩
  | none =>
    unfold Moment.deeds Call.deeds at h
    split at h
    · next hAct => exact absurd (Call.act.inj hAct) hPump
    · rw [hTaken] at h
      cases h

/-- What each act keeps holds at every moment of a run, and what is so of the acts of a run and of
events is so of the acts of its moments; none of these takes in all events that wait. -/
theorem moment_keeps {P : Session → Prop} {A : Act → Prop} (hEvents : ∀ e, A (.handle e))
    (hQueue : ∀ s queue, P s → P { s with queue })
    (hAct : ∀ now s a, a ≠ .pump → A a → P s → P (s.act now a))
    {acts : List Timed} (hActs : ∀ a ∈ acts, A a.2) {s : Session} (h : P s) {m : Moment}
    (hMem : m ∈ s.moments acts) : P m.session ∧ A m.act ∧ m.act ≠ .pump := by
  suffices hAll : P (s.run acts) ∧ ∀ m ∈ [] ++ s.moments acts, P m.session ∧ A m.act ∧ m.act ≠ .pump
    from hAll.2 m hMem
  refine run_keeps_moments (A := A)
    (P := fun s ms => P s ∧ ∀ m ∈ ms, P m.session ∧ A m.act ∧ m.act ≠ .pump) hEvents
    (fun s _ queue h => ⟨hQueue s queue h.1, h.2⟩) ?_ acts hActs s [] ⟨h, List.forall_mem_nil _⟩
  rintro now s ms a hPump ha ⟨hs, hMs⟩
  refine ⟨hAct now s a hPump ha hs, fun m hMem => ?_⟩
  rcases List.mem_append.mp hMem with hBefore | hHere
  · exact hMs m hBefore
  · obtain rfl := List.mem_singleton.mp hHere
    exact ⟨hs, ha, hPump⟩

end ChatConsole.Session
