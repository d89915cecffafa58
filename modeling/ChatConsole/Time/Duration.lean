import ChatConsole.Decimal.Binary
import ChatConsole.Text.Blank

/-! # Durations

A duration is a number of seconds and a number of nanoseconds below one second. Its text uses the
largest unit in which it is at least one and shows every digit that is not a trailing zero.
-/

namespace ChatConsole.Time

/-- Nanoseconds in a second. -/
def perSecond : Nat := 1000000000

structure Duration where
  secs : Nat
  nanos : Nat
  nanos_lt : nanos < 1000000000 := by decide
  deriving DecidableEq

namespace Duration

def zero : Duration := ⟨0, 0, by decide⟩

instance : Inhabited Duration := ⟨zero⟩

/-- Carries whole seconds out of the nanoseconds. -/
def ofParts (secs nanos : Nat) : Duration :=
  ⟨secs + nanos / 1000000000, nanos % 1000000000, Nat.mod_lt _ (by decide)⟩

def ofMillis (ms : Nat) : Duration :=
  ⟨ms / 1000, ms % 1000 * 1000000, by omega⟩

/-- The whole length in nanoseconds. -/
def toNanos (d : Duration) : Nat := d.secs * 1000000000 + d.nanos

theorem toNanos_ofMillis (ms : Nat) : (ofMillis ms).toNanos = ms * 1000000 := by
  simp only [toNanos, ofMillis]
  omega

theorem toNanos_ofParts (secs nanos : Nat) :
    (ofParts secs nanos).toNanos = secs * 1000000000 + nanos := by
  simp only [toNanos, ofParts]
  omega

/-- A quantity in some unit: whole part, then the fraction `part / parts` without trailing zeros,
where `parts` is `10 ^ places`. -/
def unitText (whole part places : Nat) (unit : String) : String :=
  let fraction := Text.dropEnd (· == '0') (Decimal.padded places part).toList
  let point := if fraction.isEmpty then "" else "." ++ String.ofList fraction
  toString whole ++ point ++ unit

/-- The text of a duration, such as `2.5s`, `250ms`, `1.5µs` or `7ns`. -/
def text (d : Duration) : String :=
  if 0 < d.secs then unitText d.secs d.nanos 9 "s"
  else if 1000000 ≤ d.nanos then unitText (d.nanos / 1000000) (d.nanos % 1000000) 6 "ms"
  else if 1000 ≤ d.nanos then unitText (d.nanos / 1000) (d.nanos % 1000) 3 "µs"
  else unitText d.nanos 0 0 "ns"

/-- The seconds as a four-byte float: seconds plus nanoseconds over a thousand million, each part
rounded on its own. -/
def singleSeconds? (d : Duration) : Option Decimal.Binary := do
  let secs ← Decimal.single.ofNat d.secs
  let nanos ← Decimal.single.ofNat d.nanos
  let unit ← Decimal.single.ofNat perSecond
  Decimal.single.add secs (← Decimal.single.div nanos unit)

/-- The seconds with one digit after the point. -/
def secondsText (d : Duration) : String :=
  match d.singleSeconds? with
  | some seconds => Decimal.fixed 1 seconds
  | none => "inf"

end Duration

end ChatConsole.Time
