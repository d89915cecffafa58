import ChatConsole.Time.Duration

/-! # Instants

An instant is a reading of the clock: seconds and nanoseconds since midnight of the first day,
1 January 2024, in universal time. Before that the seconds are negative, the nanoseconds never.
Adding a duration carries whole seconds; the time left until a later instant borrows one and is zero
once that instant is reached.
-/

namespace ChatConsole.Time

@[ext] structure Instant where
  secs : Int
  nanos : Nat
  nanos_lt : nanos < 1000000000 := by decide

namespace Instant

instance : DecidableEq Instant := fun _ _ => decidable_of_iff _ Instant.ext_iff.symm

/-- The instant that comes so long after the first midnight. -/
def after (d : Duration) : Instant := ⟨d.secs, d.nanos, d.nanos_lt⟩

def zero : Instant := .after .zero

instance : Inhabited Instant := ⟨zero⟩

def ofMillis (ms : Nat) : Instant := .after (.ofMillis ms)

/-- The whole time in nanoseconds. -/
def toNanos (t : Instant) : Int := t.secs * 1000000000 + t.nanos

/-- The clock holds its seconds in 64 bits, one of them for the sign. -/
def Fits (t : Instant) : Prop := -9223372036854775808 ≤ t.secs ∧ t.secs < 9223372036854775808

instance (t : Instant) : Decidable t.Fits := inferInstanceAs (Decidable (_ ∧ _))

def add (t : Instant) (d : Duration) : Instant :=
  if h : t.nanos + d.nanos < 1000000000 then ⟨t.secs + d.secs, t.nanos + d.nanos, h⟩
  else ⟨t.secs + d.secs + 1, t.nanos + d.nanos - 1000000000, by
    have := t.nanos_lt
    have := d.nanos_lt
    omega⟩

/-- Whether the clock, reading `now`, has come to `due`. -/
def reached (due now : Instant) : Bool :=
  due.secs < now.secs || (due.secs == now.secs && due.nanos ≤ now.nanos)

/-- The time from `now` to `due`, zero if `due` is not later. -/
def remaining (due now : Instant) : Duration :=
  if reached due now then .zero
  else if hBorrow : now.nanos ≤ due.nanos then
    ⟨(due.secs - now.secs).toNat, due.nanos - now.nanos, by have := due.nanos_lt; omega⟩
  else
    ⟨(due.secs - now.secs - 1).toNat, due.nanos + 1000000000 - now.nanos, by
      have := now.nanos_lt
      omega⟩

theorem toNanos_add (t : Instant) (d : Duration) : (t.add d).toNanos = t.toNanos + d.toNanos := by
  unfold add
  split <;> simp only [toNanos, Duration.toNanos] <;> omega

theorem reached_iff (due now : Instant) : reached due now = true ↔ due.toNanos ≤ now.toNanos := by
  have := due.nanos_lt
  have := now.nanos_lt
  simp only [reached, toNanos, Bool.or_eq_true, Bool.and_eq_true, decide_eq_true_eq, beq_iff_eq]
  omega

theorem toNanos_remaining (due now : Instant) :
    (remaining due now).toNanos = (due.toNanos - now.toNanos).toNat := by
  have hReached := reached_iff due now
  have := due.nanos_lt
  have := now.nanos_lt
  unfold remaining
  split
  · next h =>
    have hLe := hReached.1 h
    rw [Int.toNat_eq_zero.mpr (by omega)]
    rfl
  · next h =>
    have hLater : ¬ due.toNanos ≤ now.toNanos := fun hLe => h (hReached.2 hLe)
    simp only [toNanos] at hLater ⊢
    split <;> simp only [Duration.toNanos] <;> omega

/-- The time of day as `HH:MM:SS`. -/
def clockText (t : Instant) : String :=
  let s := (t.secs % 86400).toNat
  Decimal.padded 2 (s / 3600) ++ ":" ++ Decimal.padded 2 (s / 60 % 60) ++ ":" ++
    Decimal.padded 2 (s % 60)

/-- Year, month and day, `days` days after 1 January 2024, which is day 739191 counted from the
first of March of the year 0. Years begin in March while counting, so that the leap day comes
last, and eras have four centuries. -/
def civilDate (days : Int) : Int × Nat × Nat :=
  let z := days + 739191
  let era := z / 146097
  let dayOfEra := (z % 146097).toNat
  let yearOfEra := (dayOfEra - dayOfEra / 1460 + dayOfEra / 36524 - dayOfEra / 146096) / 365
  let dayOfYear := dayOfEra - (365 * yearOfEra + yearOfEra / 4 - yearOfEra / 100)
  let shifted := (5 * dayOfYear + 2) / 153
  let day := dayOfYear - (153 * shifted + 2) / 5 + 1
  let month := if shifted < 10 then shifted + 3 else shifted - 9
  let year := era * 400 + yearOfEra + (if month ≤ 2 then 1 else 0)
  (year, month, day)

/-- Date and time to the microsecond, such as `2024-01-01T00:00:01.500000Z`. -/
def stampText (t : Instant) : String :=
  let (year, month, day) := civilDate (t.secs / 86400)
  let sign := if 9999 < year then "+" else if year < 0 then "-" else ""
  sign ++ Decimal.padded 4 year.natAbs ++ "-" ++ Decimal.padded 2 month ++ "-" ++
    Decimal.padded 2 day ++ "T" ++ t.clockText ++ "." ++ Decimal.padded 6 (t.nanos / 1000) ++ "Z"

end Instant

end ChatConsole.Time
