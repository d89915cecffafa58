import ChatConsole.Command
import ChatConsole.Session.Basic

/-! # The console

The console is a session with an input line, a help overlay and a transcript that can be scrolled.
Keys edit the line or run it as a command; while the console follows the transcript, its newest line
is the last one shown.
-/

namespace ChatConsole

structure Console where
  session : Session
  input : String := ""
  quitting : Bool := false
  helpShown : Bool := false
  /-- How many lines the transcript is scrolled back. -/
  offset : Nat := 0
  /-- Whether the newest line stays in view. -/
  following : Bool := true

/-- The keys the console knows. -/
inductive Key
  | char (c : Char)
  | enter | backspace | escape
  | up | down | pageUp | pageDown | home | endKey
  | function (n : Nat)
  | other
  deriving DecidableEq, Repr

namespace Console

/-- What the console is doing. -/
inductive Mode
  | running | help | quitting
  deriving DecidableEq, Repr

def Mode.name : Mode → String
  | .running => "Running"
  | .help => "Help"
  | .quitting => "Quitting"

def mode (c : Console) : Mode :=
  if c.quitting then .quitting else if c.helpShown then .help else .running

def start (settings : Session.Settings) (role : Role) (gateway : Gateway) : Console where
  session := .start settings role gateway

/-- Adds a line to the activity log. -/
def log (now : Time.Instant) (text : String) (c : Console) : Console :=
  { c with session := c.session.notify now text }

/-! ## Scrolling -/

/-- The transcript is never scrolled back further than this. -/
def maxOffset : Nat := Decimal.word - 1

def scrollUp (n : Nat) (c : Console) : Console :=
  { c with offset := min (c.offset + n) maxOffset, following := false }

def scrollDown (n : Nat) (c : Console) : Console :=
  let offset := c.offset - n
  { c with offset, following := if offset = 0 then true else c.following }

def scrollToEnd (c : Console) : Console := { c with offset := 0, following := true }

/-! ## Commands -/

def invalidRoleText (e : InvalidRole) : String := "Error: " ++ e.message

/-- Goes on with the role that a word names; a word that names none is only logged. -/
def withRole (now : Time.Instant) (word : String) (c : Console) (go : Role → Console) : Console :=
  match Role.parse word with
  | .ok role => go role
  | .error e => c.log now (invalidRoleText e)

def connect (now : Time.Instant) (role : Role) (c : Console) : Console :=
  scrollToEnd { c with session := c.session.connect now role }

def sendText (now : Time.Instant) (text : String) (c : Console) : Console :=
  scrollToEnd { c with session := (c.session.send now text).2 }

def quit (now : Time.Instant) (c : Console) : Console :=
  { c.log now "Exiting..." with quitting := true }

/-- Carries out a command. -/
def execute (now : Time.Instant) (command : Command) (c : Console) : Console :=
  match command with
  | .none => c
  | .quit => c.quit now
  | .help => { c with helpShown := true }
  | .connect (some word) => c.withRole now word fun role => c.connect now role
  | .connect Option.none => c.connect now c.session.core.role
  | .disconnect => { c with session := c.session.disconnect now }
  | .role word =>
    c.withRole now word fun role => { c with session := c.session.changeRole now role now }
  | .send text => c.sendText now text

/-- Runs the input line and empties it. Any command but the one to quit hides the help first. -/
def enter (now : Time.Instant) (c : Console) : Console :=
  let command := Command.parse c.input
  let c := { c with input := "" }
  if command = .quit then c.quit now else execute now command { c with helpShown := false }

/-- Hides the help if it is shown, and empties the input line otherwise. -/
def escape (c : Console) : Console :=
  if c.mode = .help then { c with helpShown := false } else { c with input := "" }

/-- Carries out one key. -/
def press (now : Time.Instant) (key : Key) (c : Console) : Console :=
  match key with
  | .char ch => { c with input := c.input.push ch }
  | .backspace => { c with input := String.ofList c.input.toList.dropLast }
  | .enter => c.enter now
  | .escape => c.escape
  | .function n =>
    match QuickCommand.ofKey? n with
    | some quick => c.sendText now quick.command
    | none => c
  | .up => c.scrollUp 1
  | .down => c.scrollDown 1
  | .pageUp => c.scrollUp 10
  | .pageDown => c.scrollDown 10
  | .home => c.scrollUp 1000
  | .endKey => c.scrollToEnd
  | .other => c

/-- What is done between keys: events are taken in, then a due reconnect is carried out. -/
def tick (now : Time.Instant) (c : Console) : Console :=
  { c with session := ((c.session.pump now).2.tick now now).2 }

/-! ## The status line -/

def marker : Session.Phase → String
  | .connected => "●"
  | .connecting => "◐"
  | .disconnected => "○"

/-- The text of the status line. -/
def statusText (now : Time.Instant) (c : Console) : String :=
  let core := c.session.core
  let identity := (core.identity.map (" | You: " ++ ·)).getD ""
  let pending := (core.pending.map fun r =>
    " | Reconnecting as " ++ r.role.tag ++ " in " ++ (r.remaining now).secondsText ++ "s").getD ""
  " " ++ marker core.phase ++ " " ++ core.phase.label ++ " | Role: " ++
    core.activeRole.displayName ++
    identity ++ pending

end Console

end ChatConsole
