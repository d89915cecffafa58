import ChatConsole.Proofs.Config.Layers
import ChatConsole.Proofs.Decimal.Numerals
import ChatConsole.Proofs.Session.RoleChanges
import ChatConsole.Proofs.Text.Trim

/-! # The delay of the environment

The text of the delay is taken if it is a numeral of 64 bits, with blanks around it and maybe a plus
sign in front. From there on the number of milliseconds is kept to the nanosecond: the reconnect
that a change of the role schedules is due when so many have gone by since the change, and until
then what is left is exactly what is missing.
-/

namespace ChatConsole

/-! ## Countdowns -/

/-- The reconnect is due `n` milliseconds after `t`, and what is left until then runs down to zero.
Unless `t` is among the last `2 ^ 55` seconds of the clock, the clock gets there. -/
structure Reconnect.IsCountdown (r : Reconnect) (t : Time.Instant) (n : Nat) : Prop where
  isDue_iff : ∀ u, r.isDue u ↔
    t.toNanos ≤ u.toNanos ∧ n * 1000000 ≤ u.toNanos - t.toNanos
  remaining_of_not_isDue : ∀ u, ¬ r.isDue u →
    ((r.remaining u).toNanos : Int) = t.toNanos + n * 1000000 - u.toNanos
  remaining_eq_zero_iff : ∀ u, r.remaining u = .zero ↔ r.isDue u
  remaining_anti : ∀ u u', u.toNanos ≤ u'.toNanos →
    (r.remaining u').toNanos ≤ (r.remaining u).toNanos
  fits : t.Fits → t.secs < 2 ^ 63 - 2 ^ 55 → r.due.Fits

namespace Time

theorem Duration.toNanos_eq_zero_iff {d : Duration} : d.toNanos = 0 ↔ d = .zero := by
  constructor
  · intro h
    obtain ⟨secs, nanos, hNanos⟩ := d
    simp only [toNanos] at h
    obtain ⟨rfl, rfl⟩ : secs = 0 ∧ nanos = 0 := by omega
    rfl
  · rintro rfl
    rfl

/-- Adding a delay of 64 bits in milliseconds adds less than `2 ^ 55` seconds. -/
theorem Instant.fits_add_ofMillis {t : Instant} {n : Nat} (hFits : t.Fits)
    (hEarly : t.secs < 2 ^ 63 - 2 ^ 55) (hn : n < 2 ^ 64) : (t.add (.ofMillis n)).Fits := by
  obtain ⟨hLow, -⟩ := hFits
  have hSecs : (t.add (.ofMillis n)).secs = t.secs + (n / 1000 : Nat) ∨
      (t.add (.ofMillis n)).secs = t.secs + (n / 1000 : Nat) + 1 := by
    unfold add
    split
    · exact Or.inl rfl
    · exact Or.inr rfl
  have hDelay : n / 1000 + 1 ≤ 2 ^ 55 := by omega
  unfold Fits
  omega

end Time

theorem Reconnect.isCountdown_schedule (role : Role) (t : Time.Instant) {n : Nat}
    (hn : n < 2 ^ 64) : (schedule role t (.ofMillis n)).IsCountdown t n := by
  have hDue : (schedule role t (.ofMillis n)).due.toNanos = t.toNanos + n * 1000000 := by
    rw [schedule, Time.Instant.toNanos_add, Time.Duration.toNanos_ofMillis, Nat.cast_mul]
    rfl
  have hReached : ∀ u, (schedule role t (.ofMillis n)).isDue u ↔
      t.toNanos + n * 1000000 ≤ u.toNanos := by
    intro u
    rw [isDue, Time.Instant.reached_iff, hDue]
  have hLeft : ∀ u, ((schedule role t (.ofMillis n)).remaining u).toNanos =
      (t.toNanos + n * 1000000 - u.toNanos).toNat := by
    intro u
    rw [remaining, Time.Instant.toNanos_remaining, hDue]
  refine ⟨?_, ?_, ?_, ?_, ?_⟩
  · intro u
    rw [hReached]
    omega
  · intro u hEarly
    rw [hReached] at hEarly
    rw [hLeft]
    omega
  · intro u
    rw [← Time.Duration.toNanos_eq_zero_iff, hLeft, hReached]
    omega
  · intro u u' hLe
    rw [hLeft, hLeft]
    omega
  · intro hFits hEarly
    exact Time.Instant.fits_add_ofMillis hFits hEarly hn

namespace Config

/-! ## The text -/

/-- The text without the blanks around it is a numeral of 64 bits, maybe with a plus sign. -/
def IsMillis (s : String) (n : Nat) : Prop :=
  ∃ ds, ((Text.trim s).toList = ds ∨ (Text.trim s).toList = '+' :: ds) ∧
    Decimal.IsNumeral ds n ∧ n < 2 ^ 64

theorem not_isNumeral_plus {ds : List Char} {n : Nat} : ¬ Decimal.IsNumeral ('+' :: ds) n := by
  intro h
  have hPlus := h.digits '+' List.mem_cons_self
  cases hPlus

theorem millis?_eq_some_iff {s : String} {n : Nat} : millis? s = some n ↔ IsMillis s n := by
  have hRead : ∀ ds, Decimal.readBelow? Decimal.word ds = some n ↔
      Decimal.IsNumeral ds n ∧ n < 2 ^ 64 := fun _ => Decimal.readBelow?_eq_some_iff
  unfold millis? IsMillis
  rw [Text.toList_trim]
  split
  · next ds hPlus =>
    rw [hRead, hPlus]
    constructor
    · intro h
      exact ⟨ds, Or.inr rfl, h⟩
    · rintro ⟨ds', rfl | hSame, hNumeral⟩
      · exact absurd hNumeral.1 not_isNumeral_plus
      · obtain rfl := (List.cons.inj hSame).2
        exact hNumeral
  · next hPlus =>
    rw [hRead]
    constructor
    · intro h
      exact ⟨_, Or.inl rfl, h⟩
    · rintro ⟨ds, rfl | hSigned, hNumeral⟩
      · exact hNumeral
      · exact absurd hSigned (hPlus ds)

variable {env : Environment} {s : String}

/-- A wrong delay is an error, and it is the only one there is. -/
theorem override_fst_eq_ok_iff (c : Config) (h : env delayVariable = some s) :
    (c.override env).1 = .ok () ↔ ∃ n, IsMillis s n := by
  cases hMillis : millis? s with
  | none =>
    have hError : (c.override env).1 = .error (.invalid delayVariable
        ("'" ++ s ++ "' is not a whole number of milliseconds")) := by
      simp only [override, delayOf, h, hMillis]
    rw [hError]
    constructor
    · intro hOk
      cases hOk
    · rintro ⟨n, hn⟩
      rw [millis?_eq_some_iff.mpr hn] at hMillis
      cases hMillis
  | some n =>
    constructor
    · intro _
      exact ⟨n, millis?_eq_some_iff.mp hMillis⟩
    · intro _
      simp only [override, delayOf, h, hMillis]

theorem override_delayMillis (c : Config) {n : Nat} (h : env delayVariable = some s)
    (hMillis : IsMillis s n) : (c.override env).2.delayMillis = n := by
  simp only [override, delayOf, h, millis?_eq_some_iff.mpr hMillis, Option.getD_some]

/-- **The delay counts from its text on.** A text for the delay is taken exactly if it is a numeral
of 64 bits with blanks around it and maybe a plus sign in front. In every run of a session with the
settings that follow, a change of the role while the session is connected leaves a reconnect that
counts down the number of milliseconds in the text, and a tick carries it out exactly if, by its
reading, so many have gone by since the change: it connects with the role that waits then, and does
nothing at all until then. -/
theorem delay_of_text (c : Config) (h : env delayVariable = some s) :
    ((c.override env).1 = .ok () ↔ ∃ n, IsMillis s n) ∧
      ∀ n, IsMillis s n →
        let settings := (c.override env).2.settings
        ∀ (role : Role) (gateway : Gateway) (early : List Session.Timed) (now : Time.Instant)
          (x : Session.RoleChange),
          let connected := (Session.start settings role gateway).run early
          connected.isConnected →
          let changed := connected.act now (.changeRole x.role x.changedAt)
          ∃ r, changed.core.pending = some r ∧ r.role = x.role ∧ r.IsCountdown x.changedAt n ∧
            ∀ rest : List Session.Timed, (changed.run rest).core.pending = some r →
              let waiting := changed.run rest
              ∀ now' u,
                ((waiting.tick now' u).1 = true ↔
                  x.changedAt.toNanos ≤ u.toNanos ∧
                    n * 1000000 ≤ u.toNanos - x.changedAt.toNanos) ∧
                waiting.tick now' u =
                  if r.isDue u then (true, waiting.connect now' x.role) else (false, waiting) := by
  refine ⟨override_fst_eq_ok_iff c h, ?_⟩
  intro n hMillis settings role gateway early now x connected hConnected changed
  have hBound : n < 2 ^ 64 := by
    obtain ⟨_, -, -, hBound⟩ := hMillis
    exact hBound
  have hLife : connected.core.Lifecycle :=
    Session.run_lifecycle early _ (Session.Core.lifecycle_fresh role)
  obtain ⟨-, -, -, -, -, hAwaiting⟩ := Session.changeRole_of_connected hLife hConnected now x
  have hDelay : changed.settings.delay = .ofMillis n := by
    rw [show changed.settings = settings from
      (Session.act_settings now connected _).trans (Session.run_settings early _)]
    exact congrArg Time.Duration.ofMillis (override_delayMillis c h hMillis)
  have hPending := hAwaiting.pending
  rw [hDelay] at hPending
  have hCountdown := Reconnect.isCountdown_schedule x.role x.changedAt hBound
  refine ⟨_, hPending, rfl, hCountdown, ?_⟩
  intro rest hStill waiting now' u
  have hTick := Session.tick_of_pending hStill now' u
  refine ⟨?_, hTick⟩
  rw [← hCountdown.isDue_iff u, hTick]
  split
  · next hDue => exact iff_of_true rfl hDue
  · next hEarly => exact iff_of_false Bool.false_ne_true hEarly

/-- One and a half seconds after 0.6 seconds. -/
theorem delay_of_text_signed :
    let env : Environment := fun name => if name = delayVariable then some " +01500\t" else none
    let c : Config := ({ endpoint := "ws://[::1]" } : Config)
    let gateway : Gateway := { policy := .accept }
    let early : List Session.Timed := [(.zero, .connectCurrent), (.zero, .handle (.opened ⟨1⟩))]
    let rest : List Session.Timed := [(.zero, .tick (.ofMillis 2099)), (.zero, .send "status")]
    let connected := (Session.start (c.override env).2.settings .client gateway).run early
    let x : Session.RoleChange := ⟨.manager, .ofMillis 600⟩
    let changed := connected.act .zero (.changeRole x.role x.changedAt)
    env delayVariable = some " +01500\t" ∧ IsMillis " +01500\t" 1500 ∧ connected.isConnected ∧
      (c.override env).1 = .ok () ∧
      ((changed.run rest).tick .zero (.ofMillis 2099)).1 = false ∧
      ((changed.run rest).tick .zero (.ofMillis 2100)).1 = true := by
  intro env c gateway early rest connected x changed
  have hText : env delayVariable = some " +01500\t" := rfl
  have hNumeral : Decimal.IsNumeral ['0', '1', '5', '0', '0'] 1500 :=
    Decimal.read?_eq_some_iff.mp (by decide)
  have hMillis : IsMillis " +01500\t" 1500 :=
    ⟨_, Or.inr (by decide +kernel), hNumeral, by norm_num⟩
  have hConnected : connected.isConnected := by decide +kernel
  have hKept : (changed.run rest).core.pending = changed.core.pending := by decide +kernel
  obtain ⟨hAccepted, hDelay⟩ := delay_of_text c hText
  -- The run has been evaluated; from here on it is only compared.
  clear_value early
  obtain ⟨r, hPending, -, -, hTick⟩ :=
    hDelay 1500 hMillis .client gateway early .zero x hConnected
  have hStill : (changed.run rest).core.pending = some r := hKept.trans hPending
  refine ⟨hText, hMillis, hConnected, hAccepted.mpr ⟨1500, hMillis⟩, ?_, ?_⟩
  · rw [← Bool.not_eq_true, (hTick rest hStill .zero (.ofMillis 2099)).1]
    decide
  · rw [(hTick rest hStill .zero (.ofMillis 2100)).1]
    decide

end Config

end ChatConsole
