import ChatConsole.Envelope
import ChatConsole.Retained
import ChatConsole.Text.Blank
import ChatConsole.Text.Split
import ChatConsole.Time.Instant

/-! # The transcript

An entry is one message as the user sees it: a category, an author, a body and the time it came in.
Entries never change; who an author is to the reader is decided when an entry is shown.
-/

namespace ChatConsole

inductive Category
  | system | commandSent | commandReceived | commandResponse | systemBroadcast | error
  deriving DecidableEq, Repr

namespace Category

def all : List Category :=
  [.system, .commandSent, .commandReceived, .commandResponse, .systemBroadcast, .error]

def name : Category → String
  | .system => "system"
  | .commandSent => "command_sent"
  | .commandReceived => "command_received"
  | .commandResponse => "command_response"
  | .systemBroadcast => "system_broadcast"
  | .error => "error"

/-- Entries of these categories also appear in the activity log. -/
def isNotable : Category → Bool
  | .system | .error | .systemBroadcast => true
  | .commandSent | .commandReceived | .commandResponse => false

end Category

/-- One message. -/
structure Entry where
  category : Category
  origin : String
  body : String
  createdAt : Time.Instant

/-- The lines of the body, without the carriage returns at the end of each. -/
def Entry.bodyLines (e : Entry) : List String :=
  (Text.splitAt '\n' e.body.toList).map fun line => String.ofList (Text.dropEnd (· == '\r') line)

/-- Who an author is to the reader. -/
inductive AuthorLabel
  | system
  | you
  | peer (name : String)
  deriving DecidableEq, Repr

namespace AuthorLabel

/-- The label of an author, given the identity of the reader. -/
def resolve (origin : String) (identity : Option String) : AuthorLabel :=
  if origin = systemOrigin then .system
  else if identity = some origin then .you
  else .peer origin

def text : AuthorLabel → String
  | .system => "System"
  | .you => "You"
  | .peer name => name

end AuthorLabel

abbrev Transcript := Retained Entry

namespace Transcript

/-- How many entries are kept unless the settings say otherwise. -/
def defaultLimit : Nat := 500

end Transcript

end ChatConsole
