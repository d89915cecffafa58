import ChatConsole.Activity
import ChatConsole.Session.Core

/-! # Command sessions

A session is its core together with everything the core only talks about: the events that wait, the
transcript, the activity log, the gateway and the journal. Each operation is a step of the core
whose effects are carried out in order, all at the same reading of the clock.
-/

namespace ChatConsole

namespace Session

/-- The gateway of a console on the same machine. -/
def defaultEndpoint : String := "ws://localhost:8000/ws/chatops"

structure Settings where
  endpoint : String := defaultEndpoint
  /-- How long a reconnect waits after a role change. -/
  delay : Time.Duration := Reconnect.defaultDelay
  transcriptLimit : Nat := Transcript.defaultLimit
  activityLimit : Nat := Activity.defaultLimit

end Session

structure Session where
  settings : Session.Settings
  core : Session.Core
  /-- Events that came in and were not yet taken in, oldest first. -/
  queue : List ChannelEvent := []
  transcript : Transcript
  activity : Activity
  gateway : Gateway
  /-- What was noted for the journal, newest first. -/
  records : List Journal.Record := []

namespace Session

/-- A session that has not been used. -/
def start (settings : Settings) (role : Role) (gateway : Gateway) : Session where
  settings := settings
  core := { role }
  transcript := .empty settings.transcriptLimit
  activity := .empty settings.activityLimit
  gateway := gateway

/-- What the core sees of the world. -/
def conditions (s : Session) : Conditions where
  endpoint := s.settings.endpoint
  delay := s.settings.delay
  answer := fun _ => s.gateway.answer
  takes := s.gateway.takes

/-! ## Effects -/

def note (now : Time.Instant) (n : Journal.Note) (s : Session) : Session :=
  { s with records := ⟨now, n⟩ :: s.records }

/-- The note that goes with a line of the activity log. -/
def activityNote (text : String) : Journal.Note :=
  { level := .debug, speaker := .activity, fields := [("activity", text)] }

/-- Adds a line to the activity log. -/
def notify (now : Time.Instant) (text : String) (s : Session) : Session :=
  let s := s.note now (activityNote text)
  { s with activity := s.activity.append ⟨now, text⟩ }

/-- The line of the activity log for an entry of a notable category. -/
def entryNotice (origin body : String) : String :=
  "ChatOps [" ++ origin ++ "]: " ++ Activity.preview body

/-- Adds an entry to the transcript. -/
def addEntry (now : Time.Instant) (entry : Entry) (s : Session) : Session :=
  let s :=
    if entry.category.isNotable then s.notify now (entryNotice entry.origin entry.body) else s
  { s with transcript := s.transcript.append entry }

/-- Carries out one effect. -/
def perform (now : Time.Instant) (s : Session) : Effect → Session
  | .entry category origin body => s.addEntry now ⟨category, origin, body, now⟩
  | .wipe => { s with transcript := s.transcript.clear }
  | .notice text => s.notify now text
  | .note n => s.note now n
  | .opened request link => { s with gateway := s.gateway.accept request link }
  | .sent id text => { s with gateway := s.gateway.deliver id text }
  | .closed id => { s with gateway := s.gateway.close id }
  | .dropped id => { s with gateway := s.gateway.drop id }

/-- Takes the step of the core and carries out what it leaves to do. -/
def advance (now : Time.Instant) (step : Step) (s : Session) : Session :=
  step.2.foldl (perform now) { s with core := step.1 }

/-! ## Intents -/

def connect (now : Time.Instant) (role : Role) (s : Session) : Session :=
  s.advance now (s.core.connect s.conditions role)

/-- Opens a channel with the role that is selected. -/
def connectCurrent (now : Time.Instant) (s : Session) : Session := s.connect now s.core.role

def disconnect (now : Time.Instant) (s : Session) : Session := s.advance now s.core.disconnect

/-- Takes a new role; the delay of the reconnect counts from `changedAt`. -/
def changeRole (now : Time.Instant) (role : Role) (changedAt : Time.Instant) (s : Session) :
    Session :=
  s.advance now (s.core.changeRole s.conditions role changedAt)

/-- Carries out the reconnect if it is due at `reading`, and tells whether it was. -/
def tick (now reading : Time.Instant) (s : Session) : Bool × Session :=
  ((s.core.dueRole? reading).isSome, s.advance now (s.core.tick s.conditions reading))

/-- Sends a text, and tells whether a frame went out. -/
def send (now : Time.Instant) (text : String) (s : Session) : Bool × Session :=
  let sending := s.core.sending s.conditions text
  (sending.succeeded, s.advance now (s.core, sending.effects))

/-! ## Events -/

/-- Takes in one event. -/
def handle (now : Time.Instant) (s : Session) (e : ChannelEvent) : Session :=
  s.advance now (s.core.onEvent e)

def enqueue (e : ChannelEvent) (s : Session) : Session := { s with queue := s.queue ++ [e] }

/-- The event comes in if the gateway has a line for its channel. -/
def emit (e : ChannelEvent) (s : Session) : Session :=
  if s.gateway.knows e.channel then s.enqueue e else s

/-- Takes in all that waits, and tells how many events these were. -/
def pump (now : Time.Instant) (s : Session) : Nat × Session :=
  (s.queue.length, s.queue.foldl (handle now) { s with queue := [] })

/-! ## Views -/

def isConnected (s : Session) : Bool := s.core.isConnected

def activeRole (s : Session) : Role := s.core.activeRole

/-- The label of an author for the present identity. -/
def label (s : Session) (origin : String) : AuthorLabel := .resolve origin s.core.identity

/-- What an empty input line shows. -/
def placeholder (s : Session) : String :=
  match s.core.phase with
  | .connected => "Type a command as " ++ s.activeRole.tag ++ "..."
  | .connecting => "Connecting as " ++ s.activeRole.tag ++ "..."
  | .disconnected => "Disconnected - type /connect"

end Session

end ChatConsole
