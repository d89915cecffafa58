import ChatConsole.Proofs.Session.Runs
import ChatConsole.Proofs.Session.Steps

/-! # Attempts to open a channel

To connect is to make room and then to open: `vacate` closes what is open, `openNext` puts the
request to the gateway. `connect_eq` says that this is all there is to connecting, so whatever holds
of the vacated session holds at the moment at which the request is put.

`attempts` lists these moments for a whole run. The numbers of a run's attempts are `1, 2, 3, ...`:
each attempt uses up one, whatever comes of it, and nothing else does.
-/

namespace ChatConsole.Session

namespace Core

variable (c : Core)

@[simp] theorem disconnect_nextId : c.disconnect.1.nextId = c.nextId := by
  rcases Option.eq_none_or_eq_some c.channel with hNone | ⟨held, hHeld⟩
  · rw [disconnect_of_none hNone]
  · rw [disconnect_of_some hHeld]
    rfl

@[simp] theorem disconnect_channel : c.disconnect.1.channel = none := by
  rcases Option.eq_none_or_eq_some c.channel with hNone | ⟨held, hHeld⟩
  · rw [disconnect_of_none hNone]
    exact hNone
  · rw [disconnect_of_some hHeld]
    rfl

@[simp] theorem vacate_nextId : c.vacate.1.nextId = c.nextId := by
  rcases Option.eq_none_or_eq_some c.channel with hNone | ⟨held, hHeld⟩
  · rw [vacate_of_none hNone]
  · rw [vacate_of_some hHeld]
    rfl

@[simp] theorem vacate_channel : c.vacate.1.channel = none := by
  rcases Option.eq_none_or_eq_some c.channel with hNone | ⟨held, hHeld⟩
  · rw [vacate_of_none hNone]
    exact hNone
  · rw [vacate_of_some hHeld]
    rfl

/-- An attempt uses up one number, whatever comes of it. -/
theorem openNext_nextId (w : Conditions) (role : Role) :
    (c.openNext w role).1.nextId = c.nextId.next := by
  obtain ⟨channel, phase, hCore⟩ := c.openNext_core w role
  rw [hCore]

theorem onEvent_nextId (e : ChannelEvent) : (c.onEvent e).1.nextId = c.nextId := by
  obtain ⟨identity, phase, channel, hCore⟩ := c.onEvent_core e
  rw [hCore]

theorem changeRole_nextId (w : Conditions) (role : Role) (now : Time.Instant) :
    (c.changeRole w role now).1.nextId = c.nextId := by
  by_cases hAgain : c.isConnected ∨ c.pending.isSome
  · rw [changeRole_of_again hAgain]
    exact disconnect_nextId { c with role }
  · rw [not_or, Option.not_isSome_iff_eq_none] at hAgain
    rw [changeRole_of_quiet hAgain.1 hAgain.2]

end Core

/-! ## The moment of an attempt -/

/-- The session at the moment at which an open request is put to the gateway. -/
def vacate (now : Time.Instant) (s : Session) : Session := s.advance now s.core.vacate

/-- Puts an open request to the gateway, if the endpoint allows one. -/
def openNext (now : Time.Instant) (role : Role) (s : Session) : Session :=
  s.advance now (s.core.openNext s.conditions role)

@[simp] theorem vacate_nextId (now : Time.Instant) (s : Session) :
    (s.vacate now).core.nextId = s.core.nextId := by
  rw [vacate, advance_core, Core.vacate_nextId]

theorem connect_eq (now : Time.Instant) (role : Role) (s : Session) :
    s.connect now role = (s.vacate now).openNext now role := by
  unfold connect openNext vacate
  rw [advance_core, advance_conditions, Core.connect_eq, advance_advance]

/-- The role with which an act attempts to open a channel, if it does. -/
def Act.opens? (s : Session) : Act → Option Role
  | .connect role => some role
  | .connectCurrent => some s.core.role
  | .tick reading => s.core.dueRole? reading
  | _ => none

theorem act_of_opens {now : Time.Instant} {s : Session} {a : Act} {role : Role}
    (h : a.opens? s = some role) : s.act now a = (s.vacate now).openNext now role := by
  rw [← connect_eq]
  cases a with
  | connect r =>
    obtain rfl : r = role := Option.some.inj h
    rfl
  | connectCurrent =>
    obtain rfl : s.core.role = role := Option.some.inj h
    rfl
  | tick reading =>
    show s.advance now (s.core.tick s.conditions reading) = _
    rw [Core.tick_of_due h]
    rfl
  | _ => exact absurd h (by simp [Act.opens?])

/-- An attempt to open a channel: the session at the moment at which the request is put to the
gateway, and the role that is asked for. -/
structure Attempt where
  session : Session
  role : Role

namespace Attempt

/-- The number that the attempt uses up. -/
def id (m : Attempt) : ChannelId := m.session.core.nextId

/-- The request that is put to the gateway, or why there is none. -/
def request (m : Attempt) : Except ChannelError OpenRequest :=
  OpenRequest.make m.id m.session.settings.endpoint m.role

end Attempt

theorem opens?_congr {s t : Session} (h : s.core = t.core) (a : Act) : a.opens? s = a.opens? t := by
  cases a <;> simp only [Act.opens?, h]

theorem request_vacate (now : Time.Instant) (s : Session) (role : Role) :
    Attempt.request ⟨s.vacate now, role⟩ =
      OpenRequest.make s.core.nextId s.settings.endpoint role := by
  rw [Attempt.request, Attempt.id, vacate_nextId, vacate, advance_settings]

/-- The attempts of a run. -/
def attempts (s : Session) : List Timed → List Attempt
  | [] => []
  | (now, a) :: acts =>
    (a.opens? s).toList.map (fun role => ⟨s.vacate now, role⟩) ++ (s.act now a).attempts acts

/-- Every attempt is made by an act of the run, and is all that this act does once room is made. -/
theorem exists_act_of_mem_attempts {m : Attempt} {acts : List Timed} {s : Session}
    (h : m ∈ s.attempts acts) : ∃ before now a after,
      acts = before ++ (now, a) :: after ∧ a.opens? (s.run before) = some m.role ∧
        m.session = (s.run before).vacate now := by
  induction acts generalizing s with
  | nil => cases h
  | cons a acts ih =>
    obtain ⟨now, a⟩ := a
    rcases List.mem_append.mp h with hHere | hLater
    · obtain ⟨role, hRole, rfl⟩ := List.mem_map.mp hHere
      exact ⟨[], now, a, acts, rfl, Option.mem_toList.mp hRole, rfl⟩
    · obtain ⟨before, now', a', after, rfl, hOpens, hSession⟩ := ih hLater
      exact ⟨(now, a) :: before, now', a', after, rfl, hOpens, hSession⟩

/-! ## Numbers -/

theorem handleAll_nextId (now : Time.Instant) (es : List ChannelEvent) (s : Session) :
    (handleAll now s es).core.nextId = s.core.nextId := by
  refine handleAll_keeps (P := fun t => t.core.nextId = s.core.nextId) now ?_ es s rfl
  intro t e ht
  show (t.advance now (t.core.onEvent e)).core.nextId = _
  rw [advance_core, Core.onEvent_nextId, ht]

/-- Nothing but an attempt uses up a number. -/
theorem act_nextId {now : Time.Instant} {s : Session} {a : Act} (h : a.opens? s = none) :
    (s.act now a).core.nextId = s.core.nextId := by
  cases a with
  | connect role => cases h
  | connectCurrent => cases h
  | tick reading =>
    show (s.advance now (s.core.tick s.conditions reading)).core.nextId = _
    rw [Core.tick_of_not_due h, advance_core]
  | disconnect => exact advance_core now s _ ▸ Core.disconnect_nextId s.core
  | changeRole role changedAt =>
    exact advance_core now s _ ▸ Core.changeRole_nextId s.core s.conditions role changedAt
  | send text => rw [show s.act now (.send text) = s.advance now _ from rfl, advance_core]
  | handle e => exact advance_core now s _ ▸ Core.onEvent_nextId s.core e
  | emit e => exact congrArg Core.nextId (emit_core s e)
  | pump => exact handleAll_nextId now s.queue { s with queue := [] }
  | _ => rfl

theorem act_nextId_of_opens (now : Time.Instant) {s : Session} {a : Act} {role : Role}
    (h : a.opens? s = some role) : (s.act now a).core.nextId = s.core.nextId.next := by
  rw [act_of_opens h, openNext, advance_core, Core.openNext_nextId, vacate_nextId]

/-- The numbers of the attempts of a run follow each other, from the next number on. -/
theorem attempts_numbers (acts : List Timed) (s : Session) :
    (s.attempts acts).map (·.id.number) =
        List.range' s.core.nextId.number (s.attempts acts).length ∧
      (s.run acts).core.nextId.number = s.core.nextId.number + (s.attempts acts).length := by
  induction acts generalizing s with
  | nil => exact ⟨rfl, rfl⟩
  | cons a acts ih =>
    obtain ⟨now, a⟩ := a
    obtain ⟨ihNumbers, ihNext⟩ := ih (s.act now a)
    cases hOpens : a.opens? s with
    | none =>
      rw [act_nextId hOpens] at ihNumbers ihNext
      simp only [attempts, hOpens, Option.toList_none, List.map_nil, List.nil_append, run_cons]
      exact ⟨ihNumbers, ihNext⟩
    | some role =>
      have hNext : (s.act now a).core.nextId.number = s.core.nextId.number + 1 :=
        congrArg ChannelId.number (act_nextId_of_opens now hOpens)
      rw [hNext] at ihNumbers ihNext
      simp only [attempts, hOpens, Option.toList_some, List.map_cons, List.map_nil,
        List.cons_append, List.nil_append, List.length_cons, run_cons, Attempt.id, vacate_nextId,
        ihNext]
      exact ⟨congrArg (s.core.nextId.number :: ·) ihNumbers, by omega⟩

theorem act_nextId_le (now : Time.Instant) (s : Session) (a : Act) :
    s.core.nextId.number ≤ (s.act now a).core.nextId.number := by
  rw [show s.act now a = s.run [(now, a)] from rfl, (attempts_numbers [(now, a)] s).2]
  exact Nat.le_add_right _ _

end ChatConsole.Session
