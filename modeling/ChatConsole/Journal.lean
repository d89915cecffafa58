import ChatConsole.Time.Instant

/-! # The journal

The diagnostic journal records what the program did. A record names how serious it is and which part
of the program speaks; on its line come the date, the level, the part, the message and then the
fields. A record without a message begins with its fields.
-/

namespace ChatConsole.Journal

/-- How serious a record is, the most serious first. -/
inductive Level
  | error | warn | info | debug | trace
  deriving DecidableEq, Repr

namespace Level

def all : List Level := [.error, .warn, .info, .debug, .trace]

/-- The place of a level: a filter that lets one level pass lets the lower places pass, too. -/
def rank : Level → Nat
  | .error => 1
  | .warn => 2
  | .info => 3
  | .debug => 4
  | .trace => 5

def name : Level → String
  | .error => "ERROR"
  | .warn => "WARN"
  | .info => "INFO"
  | .debug => "DEBUG"
  | .trace => "TRACE"

/-- The name in five columns. -/
def column (l : Level) : String :=
  String.ofList (List.replicate (5 - l.name.length) ' ') ++ l.name

end Level

/-- The part of the program that speaks. -/
inductive Speaker
  | session | activity | transport | journal | program
  deriving DecidableEq, Repr

def Speaker.target : Speaker → String
  | .session => "chatops_console::session::client"
  | .activity => "chatops_console::session::activity"
  | .transport => "chatops_console::session::websocket"
  | .journal => "chatops_console::logging"
  | .program => "chatops_console"

/-- What is said, before it is known when. -/
structure Note where
  level : Level
  speaker : Speaker
  message : Option String := none
  /-- Names and values in the order in which they are shown. -/
  fields : List (String × String) := []
  deriving DecidableEq, Repr

structure Record where
  time : Time.Instant
  note : Note
  deriving DecidableEq

/-- Control characters that a terminal would act on are shown as escapes inside a message. -/
def visible (c : Char) : List Char :=
  let n := c.toNat
  if n = 7 ∨ n = 8 ∨ n = 12 ∨ n = 27 ∨ n = 127 then
    ['\\', 'x'] ++ List.replicate (2 - (Nat.toDigits 16 n).length) '0' ++ Nat.toDigits 16 n
  else if 128 ≤ n ∧ n < 160 then ['\\', 'u', '\x7b'] ++ Nat.toDigits 16 n ++ ['\x7d']
  else [c]

def fieldText (field : String × String) : String := field.1 ++ "=" ++ field.2

namespace Note

/-- The message and the fields with spaces between them. -/
def text (note : Note) : String :=
  let message := note.message.map fun s => String.ofList (s.toList.flatMap visible)
  " ".intercalate (message.toList ++ note.fields.map fieldText)

end Note

namespace Record

/-- The line of a record, without the line break. -/
def line (r : Record) : String :=
  r.time.stampText ++ " " ++ r.note.level.column ++ " " ++ r.note.speaker.target ++ ": " ++
    r.note.text

end Record

end ChatConsole.Journal
