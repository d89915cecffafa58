import ChatConsole.Proofs.Session.Attempts
import ChatConsole.Proofs.Session.Moments

/-! # The lifecycle of a connection

`Core.Lifecycle` is what every core of a run keeps: the phase tells whether a channel is held, only
a connected session knows who its user is, a reconnect waits only while nothing is held and for the
role that is selected, and the number of the channel held has been used up.

Under it, closing leads to the idle core whether there was a channel or not, and this is what the
other steps lean on: `connect` opens from the idle core, a change of the role schedules from it.
-/

namespace ChatConsole.Session

namespace Core

/-- What holds of the core of a session at any time. -/
structure Lifecycle (c : Core) : Prop where
  disconnected_iff : c.phase = .disconnected ↔ c.channel = none
  connected_of_identity : c.identity.isSome → c.phase = .connected
  of_pending : ∀ r, c.pending = some r →
    c.phase = .disconnected ∧ c.channel = none ∧ r.role = c.role
  id_lt : ∀ held, c.channel = some held → held.id.number < c.nextId.number

variable {c : Core} {w : Conditions} {role : Role}

theorem lifecycle_fresh (role : Role) : Lifecycle { role } where
  disconnected_iff := by simp
  connected_of_identity := by simp
  of_pending := by simp
  id_lt := by simp

theorem lifecycle_idle (c : Core) : c.idle.Lifecycle where
  disconnected_iff := by simp [idle]
  connected_of_identity := by simp [idle]
  of_pending := by simp [idle]
  id_lt := by simp [idle]

namespace Lifecycle

theorem identity_eq_none (h : c.Lifecycle) (hPhase : c.phase ≠ .connected) : c.identity = none := by
  cases hId : c.identity with
  | none => rfl
  | some u => exact absurd (h.connected_of_identity (by rw [hId]; rfl)) hPhase

theorem pending_eq_none (h : c.Lifecycle) {held : Held} (hHeld : c.channel = some held) :
    c.pending = none := by
  cases hPending : c.pending with
  | none => rfl
  | some r =>
    have hNone := (h.of_pending r hPending).2.1
    rw [hHeld] at hNone
    cases hNone

theorem channel_of_connected (h : c.Lifecycle) (hConnected : c.isConnected) :
    ∃ held, c.channel = some held := by
  cases hHeld : c.channel with
  | none =>
    have hPhase := h.disconnected_iff.mpr hHeld
    simp [isConnected, hPhase] at hConnected
  | some held => exact ⟨held, rfl⟩

/-! ## Closing -/

/-- Without a channel there is nothing left to close. -/
theorem idle_eq (h : c.Lifecycle) (hNone : c.channel = none) :
    c.idle = { c with pending := none } := by
  have hPhase := h.disconnected_iff.mpr hNone
  have hIdentity := h.identity_eq_none (by rw [hPhase]; decide)
  simp only [idle, hNone, hPhase, hIdentity]

theorem disconnect_fst (h : c.Lifecycle) : c.disconnect.1 = c.idle := by
  cases hHeld : c.channel with
  | none => rw [disconnect_of_none hHeld, h.idle_eq hHeld]
  | some held => rw [disconnect_of_some hHeld]

theorem vacate_fst (h : c.Lifecycle) : c.vacate.1 = c.idle := by
  cases hHeld : c.channel with
  | none => rw [vacate_of_none hHeld, h.idle_eq hHeld]
  | some held => rw [vacate_of_some hHeld]

/-! ## Each step keeps it -/

theorem disconnect (h : c.Lifecycle) : c.disconnect.1.Lifecycle := by
  rw [h.disconnect_fst]
  exact lifecycle_idle c

/-- Every exit of an open from an idle core is accounted for: the endpoint is no web socket, the
gateway accepts, the gateway refuses. -/
theorem openNext_idle (c : Core) (w : Conditions) (role : Role) :
    (c.idle.openNext w role).1.Lifecycle := by
  cases hMake : OpenRequest.make c.idle.nextId w.endpoint role with
  | error e =>
    rw [openNext_of_rejected hMake]
    exact ⟨by simp [idle], by simp [idle], by simp [idle], by simp [idle]⟩
  | ok request =>
    cases hAnswer : w.answer request with
    | ok link =>
      rw [openNext_of_accepted hMake hAnswer]
      refine ⟨by simp, by simp [idle], by simp [idle], ?_⟩
      intro held hHeld
      obtain rfl := Option.some.inj hHeld
      exact Nat.lt_succ_self _
    | error e =>
      rw [openNext_of_refused hMake hAnswer]
      exact ⟨by simp [idle], by simp [idle], by simp [idle], by simp [idle]⟩

theorem connect (h : c.Lifecycle) (w : Conditions) (role : Role) :
    (c.connect w role).1.Lifecycle := by
  rw [connect_eq]
  show (c.vacate.1.openNext w role).1.Lifecycle
  rw [h.vacate_fst]
  exact openNext_idle c w role

/-- The core with another role selected, as far as no reconnect is waiting for the old one. -/
theorem withRole (h : c.Lifecycle) (hPending : c.pending = none) (role : Role) :
    Lifecycle { c with role } where
  disconnected_iff := h.disconnected_iff
  connected_of_identity := h.connected_of_identity
  of_pending := fun r hr => by rw [hPending] at hr; cases hr
  id_lt := h.id_lt

/-- What a change of the role does to a session that is connected or about to be again. -/
theorem changeRole_fst_of_again (h : c.Lifecycle) {now : Time.Instant}
    (hAgain : c.isConnected ∨ c.pending.isSome) :
    (c.changeRole w role now).1 =
      { c.idle with role, pending := some (.schedule role now w.delay) } := by
  rw [changeRole_of_again hAgain]
  -- the new role may differ from that of the pending reconnect, so `disconnect_fst` does not apply
  rcases Option.eq_none_or_eq_some c.channel with hNone | ⟨held, hHeld⟩
  · rw [disconnect_of_none (c := { c with role }) hNone, h.idle_eq hNone]
  · rw [disconnect_of_some (c := { c with role }) hHeld]
    rfl

theorem changeRole (h : c.Lifecycle) (w : Conditions) (role : Role) (now : Time.Instant) :
    (c.changeRole w role now).1.Lifecycle := by
  by_cases hAgain : c.isConnected ∨ c.pending.isSome
  · rw [h.changeRole_fst_of_again hAgain]
    refine ⟨by simp [idle], by simp [idle], ?_, by simp [idle]⟩
    intro r hr
    obtain rfl := Option.some.inj hr
    exact ⟨rfl, rfl, rfl⟩
  · rw [not_or, Option.not_isSome_iff_eq_none] at hAgain
    rw [changeRole_of_quiet hAgain.1 hAgain.2]
    exact h.withRole hAgain.2 role

theorem tick (h : c.Lifecycle) (w : Conditions) (now : Time.Instant) :
    (c.tick w now).1.Lifecycle := by
  cases hDue : c.dueRole? now with
  | none =>
    rw [tick_of_not_due hDue]
    exact h
  | some role =>
    rw [tick_of_due hDue]
    exact h.connect w role

theorem onOpened (h : c.Lifecycle) {held : Held} (hHeld : c.channel = some held) :
    c.onOpened.1.Lifecycle where
  disconnected_iff := by simp [Core.onOpened, hHeld]
  connected_of_identity := fun _ => rfl
  of_pending := fun r hr => by
    have hNone := h.pending_eq_none hHeld
    rw [show c.onOpened.1.pending = c.pending from rfl, hNone] at hr
    cases hr
  id_lt := h.id_lt

theorem onMessage (h : c.Lifecycle) (raw : String) : (c.onMessage raw).1.Lifecycle := by
  rcases onMessage_core c raw with hCore | ⟨origin, -, hConnected, hCore⟩
  · rw [hCore]
    exact h
  · rw [hCore]
    exact ⟨h.disconnected_iff, fun _ => by simpa [isConnected] using hConnected, h.of_pending,
      h.id_lt⟩

theorem onClosed (h : c.Lifecycle) {held : Held} (hHeld : c.channel = some held)
    (reason : Option String) : (c.onClosed reason).1.Lifecycle := by
  have hCore : (c.onClosed reason).1 = c.idle := by
    simp only [Core.onClosed, idle, h.pending_eq_none hHeld]
  rw [hCore]
  exact lifecycle_idle c

theorem onEvent (h : c.Lifecycle) (e : ChannelEvent) : (c.onEvent e).1.Lifecycle := by
  by_cases hActive : c.activeId? = some e.channel
  · obtain ⟨held, hHeld, -⟩ := Option.map_eq_some_iff.mp hActive
    rw [onEvent_of_active e hActive]
    cases e with
    | opened id => exact h.onOpened hHeld
    | message id raw => exact h.onMessage raw
    | closed id reason => exact h.onClosed hHeld reason
    | failed id description => exact h
  · rw [onEvent_of_other hActive]
    exact h

end Lifecycle

end Core

/-! ## What an act does to the channel -/

namespace Core

theorem openNext_idle_fresh (c : Core) (w : Conditions) (role : Role) :
    (c.idle.openNext w role).1.phase ≠ .connected ∧
      ∀ id, (c.idle.openNext w role).1.activeId? = some id → id = c.nextId := by
  cases hMake : OpenRequest.make c.idle.nextId w.endpoint role with
  | error e =>
    rw [openNext_of_rejected hMake]
    refine ⟨by simp [idle], ?_⟩
    intro id h
    cases h
  | ok request =>
    cases hAnswer : w.answer request with
    | ok link =>
      rw [openNext_of_accepted hMake hAnswer]
      exact ⟨by simp, fun _ h => (Option.some.inj h).symm⟩
    | error e =>
      rw [openNext_of_refused hMake hAnswer]
      refine ⟨by simp, ?_⟩
      intro id h
      cases h

/-- The events of the channel held: it is open now, or at an end, or as it was. -/
theorem onEvent_channel (c : Core) (e : ChannelEvent) :
    (∃ id, e = .opened id ∧ c.activeId? = some id ∧ (c.onEvent e).1.phase = .connected ∧
        (c.onEvent e).1.channel = c.channel) ∨
      ((c.onEvent e).1.phase = .disconnected ∧ (c.onEvent e).1.channel = none) ∨
      ((c.onEvent e).1.phase = c.phase ∧ (c.onEvent e).1.channel = c.channel ∧
        ∀ id, c.activeId? = some id → e ≠ .opened id) := by
  by_cases hActive : c.activeId? = some e.channel
  · rw [onEvent_of_active e hActive]
    cases e with
    | opened id => exact Or.inl ⟨id, rfl, hActive, rfl, rfl⟩
    | message id raw =>
      exact Or.inr (Or.inr ⟨c.onMessage_phase raw, c.onMessage_channel raw, fun _ _ => by simp⟩)
    | closed id reason => exact Or.inr (Or.inl ⟨rfl, rfl⟩)
    | failed id description => exact Or.inr (Or.inr ⟨rfl, rfl, fun _ _ => by simp⟩)
  · rw [onEvent_of_other hActive]
    refine Or.inr (Or.inr ⟨rfl, rfl, ?_⟩)
    rintro id hId rfl
    exact hActive hId

end Core

/-- What an act can make of the core, unless it takes in all events that wait. -/
inductive Becomes (s : Session) : Act → Core → Prop
  /-- A channel is attempted. -/
  | attempted {a : Act} {role : Role} (w : Conditions) (opens : a.opens? s = some role) :
      Becomes s a (s.core.idle.openNext w role).1
  | closed : Becomes s .disconnect s.core.idle
  /-- A change of the role that a reconnect answers to. -/
  | scheduled {role : Role} {changedAt : Time.Instant}
      (again : s.core.isConnected ∨ s.core.pending.isSome) :
      Becomes s (.changeRole role changedAt)
        { s.core.idle with role, pending := some (.schedule role changedAt s.settings.delay) }
  /-- A change of the role for the next channel. -/
  | selected {role : Role} {changedAt : Time.Instant} (not_connected : ¬ s.core.isConnected)
      (pending : s.core.pending = none) :
      Becomes s (.changeRole role changedAt) { s.core with role }
  | handled (e : ChannelEvent) : Becomes s (.handle e) (s.core.onEvent e).1
  | kept {a : Act} (not_role : ∀ role changedAt, a ≠ .changeRole role changedAt)
      (not_event : ∀ e, a ≠ .handle e) : Becomes s a s.core

theorem act_becomes (now : Time.Instant) {s : Session} {a : Act} (h : s.core.Lifecycle)
    (hPump : a ≠ .pump) : Becomes s a (s.act now a).core := by
  cases hOpens : a.opens? s with
  | some role =>
    rw [act_of_opens hOpens, openNext, advance_core, vacate, advance_core, h.vacate_fst]
    exact .attempted _ hOpens
  | none =>
    have hKept : (s.act now a).core = s.core → (∀ role changedAt, a ≠ .changeRole role changedAt) →
        (∀ e, a ≠ .handle e) → Becomes s a (s.act now a).core := fun hCore hRole hEvent =>
      hCore.symm ▸ .kept hRole hEvent
    cases a with
    | connect role => cases hOpens
    | connectCurrent => cases hOpens
    | tick reading =>
      refine hKept ?_ (by simp) (by simp)
      show (s.advance now (s.core.tick s.conditions reading)).core = _
      rw [Core.tick_of_not_due hOpens, advance_core]
    | disconnect =>
      rw [show (s.act now .disconnect).core = s.core.idle from
        (advance_core now s _).trans h.disconnect_fst]
      exact .closed
    | changeRole role changedAt =>
      have hCore : (s.act now (.changeRole role changedAt)).core =
          (s.core.changeRole s.conditions role changedAt).1 := advance_core now s _
      rw [hCore]
      by_cases hAgain : s.core.isConnected ∨ s.core.pending.isSome
      · rw [h.changeRole_fst_of_again hAgain]
        exact .scheduled hAgain
      · rw [not_or, Option.not_isSome_iff_eq_none] at hAgain
        rw [Core.changeRole_of_quiet hAgain.1 hAgain.2]
        exact .selected hAgain.1 hAgain.2
    | send text => exact hKept (advance_core now s _) (by simp) (by simp)
    | handle e =>
      rw [show (s.act now (.handle e)).core = (s.core.onEvent e).1 from advance_core now s _]
      exact .handled e
    | emit e => exact hKept (emit_core s e) (by simp) (by simp)
    | pump => exact absurd rfl hPump
    | _ => exact hKept rfl (by simp) (by simp)

/-- An act opens a channel with the next number, finds the channel open, ends it, or leaves phase
and channel as they are. -/
theorem act_channel (now : Time.Instant) {s : Session} {a : Act} (h : s.core.Lifecycle)
    (hPump : a ≠ .pump) :
    ((a.opens? s).isSome ∧ (s.act now a).core.phase ≠ .connected ∧
        ∀ id, (s.act now a).core.activeId? = some id → id = s.core.nextId) ∨
      (∃ id, a = .handle (.opened id) ∧ s.core.activeId? = some id ∧
        (s.act now a).core.phase = .connected ∧ (s.act now a).core.channel = s.core.channel) ∨
      ((s.act now a).core.phase = .disconnected ∧ (s.act now a).core.channel = none) ∨
      ((s.act now a).core.phase = s.core.phase ∧ (s.act now a).core.channel = s.core.channel ∧
        ∀ id, s.core.activeId? = some id → a ≠ .handle (.opened id)) := by
  have hBecomes := act_becomes now h hPump
  generalize (s.act now a).core = c at hBecomes ⊢
  cases hBecomes with
  | attempted w hOpens =>
    exact Or.inl ⟨Option.isSome_of_eq_some hOpens, Core.openNext_idle_fresh s.core w _⟩
  | closed => exact Or.inr (Or.inr (Or.inl ⟨rfl, rfl⟩))
  | scheduled hAgain => exact Or.inr (Or.inr (Or.inl ⟨rfl, rfl⟩))
  | selected hNot hNone => exact Or.inr (Or.inr (Or.inr ⟨rfl, rfl, fun _ _ => by simp⟩))
  | handled e => simpa using Or.inr (s.core.onEvent_channel e)
  | kept hRole hEvent => exact Or.inr (Or.inr (Or.inr ⟨rfl, rfl, fun _ _ => hEvent _⟩))

/-! ## Whole runs -/

theorem act_lifecycle (now : Time.Instant) (s : Session) (a : Act) (hPump : a ≠ .pump)
    (h : s.core.Lifecycle) : (s.act now a).core.Lifecycle := by
  cases a with
  | connect role => exact advance_core now s _ ▸ h.connect s.conditions role
  | connectCurrent => exact advance_core now s _ ▸ h.connect s.conditions s.core.role
  | disconnect => exact advance_core now s _ ▸ h.disconnect
  | changeRole role changedAt =>
    exact advance_core now s _ ▸ h.changeRole s.conditions role changedAt
  | tick reading => exact advance_core now s _ ▸ h.tick s.conditions reading
  | send text => exact advance_core now s _ ▸ h
  | handle e => exact advance_core now s _ ▸ h.onEvent e
  | emit e => exact (emit_core s e).symm ▸ h
  | pump => exact absurd rfl hPump
  | _ => exact h

theorem run_lifecycle (acts : List Timed) (s : Session) (h : s.core.Lifecycle) :
    (s.run acts).core.Lifecycle :=
  run_keeps (P := fun s => s.core.Lifecycle) (A := fun _ => True) (fun _ => trivial)
    (fun _ _ h => h) (fun now s a hPump _ h => act_lifecycle now s a hPump h) acts
    (fun _ _ => trivial) s h

/-- **The lifecycle of a run.** Whatever is done to a new session, with whatever gateway, its core
keeps to the lifecycle; and since only attempts use up numbers, the next number tells how many there
were. -/
theorem lifecycle_of_run (settings : Settings) (role : Role) (gateway : Gateway)
    (acts : List Timed) :
    let s₀ := start settings role gateway
    (s₀.run acts).core.Lifecycle ∧
      (s₀.run acts).core.nextId.number = (s₀.attempts acts).length + 1 := by
  intro s₀
  constructor
  · exact run_lifecycle acts s₀ (Core.lifecycle_fresh role)
  · rw [(attempts_numbers acts s₀).2]
    exact Nat.add_comm _ _

end ChatConsole.Session
