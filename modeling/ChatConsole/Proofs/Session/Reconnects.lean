import ChatConsole.Proofs.Session.Lifecycle

/-! # Pending reconnects

A channel is asked for by whoever calls for one and by the tick that carries out a pending
reconnect, and by nothing else: the attempts of a run are read off its moments. `act_pending` says
what an act does to the pending reconnect: an attempt uses it up, a change of the role schedules it
anew, closing gives it up, and all else leaves it. Each reconnect carried out therefore answers to a
change of the role of its own.
-/

namespace ChatConsole.Session

/-- Whether an act asks for a channel at once. -/
def Act.connects : Act → Bool
  | .connect _ | .connectCurrent => true
  | _ => false

def Act.changesRole : Act → Bool
  | .changeRole .. => true
  | _ => false

namespace Moment

/-- Whether a pending reconnect is carried out. -/
def fires (m : Moment) : Bool :=
  match m.act with
  | .tick reading => (m.session.tick m.now reading).1
  | _ => false

/-- The attempt that is made to open a channel. -/
def attempt? (m : Moment) : Option Attempt :=
  (m.act.opens? m.session).map fun role => ⟨m.session.vacate m.now, role⟩

theorem isSome_attempt? (m : Moment) : m.attempt?.isSome = (m.act.connects || m.fires) := by
  obtain ⟨s, now, a⟩ := m
  unfold attempt?
  rw [Option.isSome_map]
  cases a <;> rfl

theorem attempt?_eq_none_iff (m : Moment) :
    m.attempt? = none ↔ ¬ m.act.connects ∧ ¬ m.fires := by
  rw [← Option.not_isSome_iff_eq_none, isSome_attempt?, Bool.or_eq_true, not_or]

end Moment

/-! ## The attempts among the moments -/

theorem exists_of_mem_momentsOf {now : Time.Instant} {m : Moment} {es : List ChannelEvent}
    {s : Session} (h : m ∈ momentsOf now s es) : ∃ e, m.act = .handle e := by
  induction es generalizing s with
  | nil => cases h
  | cons e es ih =>
    rcases List.mem_cons.mp h with rfl | hLater
    · exact ⟨e, rfl⟩
    · exact ih hLater

/-- The attempts of a run are those made at its moments. -/
theorem attempts_eq (acts : List Timed) (s : Session) :
    s.attempts acts = (s.moments acts).filterMap Moment.attempt? := by
  induction acts generalizing s with
  | nil => rfl
  | cons a acts ih =>
    obtain ⟨now, a⟩ := a
    rw [attempts, moments, List.filterMap_append, ih]
    congr 1
    by_cases hPump : a = .pump
    · subst hPump
      refine (List.filterMap_eq_nil_iff.mpr fun m hm => ?_).symm
      obtain ⟨e, he⟩ := exists_of_mem_momentsOf hm
      rw [Moment.attempt?, he]
      rfl
    · rw [if_neg hPump]
      show _ = List.filterMap Moment.attempt? [⟨s, now, a⟩]
      unfold Moment.attempt?
      cases hOpens : a.opens? s with
      | none => rw [List.filterMap_cons_none (by simp [hOpens])]; rfl
      | some role => rw [List.filterMap_cons_some (by simp only [hOpens]; rfl)]; rfl

theorem attempts_eq_nil_iff {acts : List Timed} {s : Session} :
    s.attempts acts = [] ↔ ∀ m ∈ s.moments acts, ¬ m.act.connects ∧ ¬ m.fires := by
  rw [attempts_eq, List.filterMap_eq_nil_iff]
  exact forall₂_congr fun m _ => m.attempt?_eq_none_iff

/-- How often something is done counts the same over the acts as over the moments, unless it is the
handling of an event. -/
theorem countP_moments {p : Act → Bool} (hHandle : ∀ e, p (.handle e) = false)
    (hPump : p .pump = false) (acts : List Timed) (s : Session) :
    (s.moments acts).countP (fun m => p m.act) = acts.countP fun a => p a.2 := by
  induction acts generalizing s with
  | nil => rfl
  | cons a acts ih =>
    obtain ⟨now, a⟩ := a
    rw [moments, List.countP_append, ih, List.countP_cons, Nat.add_comm]
    congr 1
    by_cases ha : a = .pump
    · subst ha
      rw [if_pos rfl, if_neg (by simp [hPump]), List.countP_eq_zero]
      intro m hm
      obtain ⟨e, he⟩ := exists_of_mem_momentsOf hm
      rw [he, hHandle]
      exact Bool.false_ne_true
    · rw [if_neg ha, List.countP_singleton]

/-- A channel is attempted once for each call for one and once for each reconnect carried out. -/
theorem length_attempts (acts : List Timed) (s : Session) :
    (s.attempts acts).length =
      (acts.countP fun a => a.2.connects) + (s.moments acts).countP Moment.fires := by
  rw [← countP_moments (p := Act.connects) (fun _ => rfl) rfl acts s, attempts_eq]
  induction s.moments acts with
  | nil => rfl
  | cons m ms ih =>
    have hOne : m.attempt?.toList.length =
        (if m.act.connects then 1 else 0) + if m.fires then 1 else 0 := by
      obtain ⟨s, now, a⟩ := m
      cases a with
      | tick reading =>
        show (((s.core.dueRole? reading).map _).toList).length =
          0 + if (s.core.dueRole? reading).isSome then 1 else 0
        cases s.core.dueRole? reading <;> rfl
      | _ => rfl
    have hFilter : ((m :: ms).filterMap Moment.attempt?).length =
        m.attempt?.toList.length + (ms.filterMap Moment.attempt?).length := by
      cases hAttempt : m.attempt? with
      | none => rw [List.filterMap_cons_none hAttempt]; exact (Nat.zero_add _).symm
      | some attempt => rw [List.filterMap_cons_some hAttempt]; exact Nat.add_comm _ _
    rw [hFilter, hOne, ih, List.countP_cons, List.countP_cons]
    omega

/-! ## What an act does to the pending reconnect -/

namespace Core

theorem openNext_pending (c : Core) (w : Conditions) (role : Role) :
    (c.openNext w role).1.pending = c.pending := by
  obtain ⟨channel, phase, hCore⟩ := c.openNext_core w role
  rw [hCore]

theorem onEvent_pending (c : Core) (e : ChannelEvent) :
    (c.onEvent e).1.pending = c.pending := by
  obtain ⟨identity, phase, channel, hCore⟩ := c.onEvent_core e
  rw [hCore]

end Core

theorem pending_of_opens {now : Time.Instant} {s : Session} {a : Act} {role : Role}
    (h : s.core.Lifecycle) (hOpens : a.opens? s = some role) :
    (s.act now a).core.pending = none := by
  rw [act_of_opens hOpens, openNext, advance_core, vacate, advance_core, h.vacate_fst,
    Core.openNext_pending]
  rfl

theorem act_pending (now : Time.Instant) {s : Session} {a : Act} (h : s.core.Lifecycle)
    (hPump : a ≠ .pump) :
    ((a.opens? s).isSome ∧ (s.act now a).core.pending = none) ∨
      (∃ role changedAt, a = .changeRole role changedAt ∧
        (s.core.isConnected ∨ s.core.pending.isSome) ∧
        (s.act now a).core.pending = some (.schedule role changedAt s.settings.delay)) ∨
      (a = .disconnect ∧ (s.act now a).core.pending = none) ∨
      ((s.act now a).core.pending = s.core.pending ∧
        (a.changesRole → ¬ s.core.isConnected ∧ s.core.pending = none)) := by
  have hBecomes := act_becomes now h hPump
  generalize (s.act now a).core = c at hBecomes ⊢
  cases hBecomes with
  | attempted w hOpens =>
    exact Or.inl ⟨Option.isSome_of_eq_some hOpens, s.core.idle.openNext_pending w _⟩
  | closed => exact Or.inr (Or.inr (Or.inl ⟨rfl, rfl⟩))
  | scheduled hAgain => exact Or.inr (Or.inl ⟨_, _, rfl, hAgain, rfl⟩)
  | selected hNot hNone => exact Or.inr (Or.inr (Or.inr ⟨rfl, fun _ => ⟨hNot, hNone⟩⟩))
  | handled e =>
    exact Or.inr (Or.inr (Or.inr ⟨s.core.onEvent_pending e, fun hRole => by cases hRole⟩))
  | kept hRole hEvent =>
    refine Or.inr (Or.inr (Or.inr ⟨rfl, fun hChanges => ?_⟩))
    cases a with
    | changeRole role changedAt => exact absurd rfl (hRole role changedAt)
    | _ => cases hChanges

/-- A tick connects with the role of the pending reconnect if that is due, and else does nothing. -/
theorem tick_of_pending {s : Session} {r : Reconnect} (h : s.core.pending = some r)
    (now reading : Time.Instant) :
    s.tick now reading = if r.isDue reading then (true, s.connect now r.role) else (false, s) := by
  unfold tick
  split
  · next hDue =>
    have hRole : s.core.dueRole? reading = some r.role :=
      Core.dueRole?_eq_some.mpr ⟨r, h, hDue, rfl⟩
    rw [Core.tick_of_due hRole, hRole]
    rfl
  · next hEarly =>
    have hNone : s.core.dueRole? reading = none := by
      rw [Core.dueRole?, h, Option.filter_some_neg (by simpa using hEarly), Option.map_none]
    rw [Core.tick_of_not_due hNone, hNone]
    rfl

/-- Only a pending reconnect can be carried out, and it is used up thereby. -/
theorem Moment.pending_of_fires {m : Moment} (h : m.session.core.Lifecycle) (hFires : m.fires) :
    m.session.core.pending.isSome ∧ (m.session.act m.now m.act).core.pending = none := by
  obtain ⟨s, now, a⟩ := m
  cases a with
  | tick reading =>
    obtain ⟨role, hDue⟩ := Option.isSome_iff_exists.mp hFires
    obtain ⟨r, hPending, -, -⟩ := Core.dueRole?_eq_some.mp hDue
    exact ⟨Option.isSome_of_eq_some hPending, pending_of_opens (a := .tick reading) h hDue⟩
  | _ => cases hFires

/-- **Reconnects answer to changes of the role.** -/
theorem countP_fires_le (acts : List Timed) {s : Session} (h : s.core.Lifecycle)
    (hPending : s.core.pending = none) :
    (s.moments acts).countP Moment.fires ≤ acts.countP fun a => a.2.changesRole := by
  rw [← countP_moments (p := Act.changesRole) (fun _ => rfl) rfl acts s]
  -- a reconnect that still waits is one that a change of the role was made for
  suffices hAll : (s.run acts).core.Lifecycle ∧
      (s.moments acts).countP Moment.fires + (s.run acts).core.pending.toList.length ≤
        (s.moments acts).countP fun m => m.act.changesRole from Nat.le_of_add_right_le hAll.2
  refine run_keeps_moments (A := fun _ => True)
    (P := fun s ms => s.core.Lifecycle ∧
      ms.countP Moment.fires + s.core.pending.toList.length ≤
        ms.countP fun m => m.act.changesRole)
    (fun _ => trivial) (fun _ _ _ h => h) ?_ acts (fun _ _ => trivial) s [] ⟨h, by simp [hPending]⟩
  rintro now s ms a hPump - ⟨hLife, hCount⟩
  refine ⟨act_lifecycle now s a hPump hLife, ?_⟩
  rw [List.countP_append, List.countP_append, List.countP_singleton, List.countP_singleton]
  by_cases hFires : Moment.fires ⟨s, now, a⟩
  · obtain ⟨hSome, hNone⟩ := Moment.pending_of_fires (m := ⟨s, now, a⟩) hLife hFires
    obtain ⟨r, hr⟩ := Option.isSome_iff_exists.mp hSome
    rw [hr, Option.toList_some, List.length_singleton] at hCount
    rw [if_pos hFires, hNone, Option.toList_none, List.length_nil]
    exact Nat.le_trans hCount (Nat.le_add_right _ _)
  · rw [if_neg hFires]
    rcases act_pending now hLife hPump with
      ⟨-, hNone⟩ | ⟨role, changedAt, rfl, -, hSome⟩ | ⟨-, hNone⟩ | ⟨hSame, -⟩
    · rw [hNone, Option.toList_none, List.length_nil]
      omega
    · have hChange : (Act.changeRole role changedAt).changesRole := rfl
      rw [hSome, Option.toList_some, List.length_singleton, if_pos hChange]
      omega
    · rw [hNone, Option.toList_none, List.length_nil]
      omega
    · rw [hSame]
      omega

end ChatConsole.Session
