import ChatConsole.Role
import ChatConsole.Time.Instant

/-! # Scheduled reconnects

After a role change a channel is opened again at a set instant. Giving the reconnect up is
forgetting it.
-/

namespace ChatConsole

structure Reconnect where
  role : Role
  due : Time.Instant
  deriving DecidableEq

namespace Reconnect

/-- How long a reconnect waits unless the settings say otherwise. -/
def defaultDelay : Time.Duration := .ofMillis 1000

def schedule (role : Role) (now : Time.Instant) (delay : Time.Duration) : Reconnect :=
  ⟨role, now.add delay⟩

def isDue (r : Reconnect) (now : Time.Instant) : Bool := r.due.reached now

/-- The time left, zero once due. -/
def remaining (r : Reconnect) (now : Time.Instant) : Time.Duration := r.due.remaining now

end Reconnect

end ChatConsole
