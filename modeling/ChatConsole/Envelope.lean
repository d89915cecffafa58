import ChatConsole.Json.Parser
import ChatConsole.Json.Printer

/-! # Envelopes

The gateway wraps what it sends in a tagged JSON object. Three members matter: `type`, `message` and
`user_id`. A tag has to be a string; a message or author that is not a string is kept as its JSON
text, and `null` counts as absent. JSON that is no object is an envelope without any of the three.
-/

namespace ChatConsole

/-- The author the gateway uses for its own messages. -/
def systemOrigin : String := "system"

/-- What a message is about. -/
inductive MessageTag
  | system | commandSent | commandReceived | commandResponse | systemBroadcast | error | clearChat
  | unknown
  deriving DecidableEq, Repr

def MessageTag.ofWire (tag : String) : MessageTag :=
  match tag with
  | "system" => .system
  | "command_sent" => .commandSent
  | "command_received" => .commandReceived
  | "command_response" => .commandResponse
  | "system_broadcast" => .systemBroadcast
  | "error" => .error
  | "clear_chat" => .clearChat
  | _ => .unknown

/-- A decoded message. -/
structure Envelope where
  tag : Option String := none
  message : Option String := none
  author : Option String := none
  deriving DecidableEq, Repr

namespace Envelope

/-- The text of a member: strings as they are, `null` as absent, anything else as JSON. -/
def memberText : Json.Value → Option String
  | .null => none
  | .text s => some s
  | v => some v.render

/-- The text of a member that counts only when it is a string. -/
def memberTag : Json.Value → Option String
  | .text s => some s
  | _ => none

def ofJson : Json.Value → Envelope
  | .object members =>
    { tag := (Json.Members.find? "type" members).bind memberTag
      message := (Json.Members.find? "message" members).bind memberText
      author := (Json.Members.find? "user_id" members).bind memberText }
  | _ => {}

/-- Decodes a payload; `none` only when it is not JSON. -/
def decode (raw : String) : Option Envelope := (Json.parse? raw).map ofJson

/-- What the message is about; without a tag that is unknown. -/
def messageTag (e : Envelope) : MessageTag := (e.tag.map MessageTag.ofWire).getD .unknown

/-- The author, which is the gateway itself when absent. -/
def origin (e : Envelope) : String := e.author.getD systemOrigin

def body (e : Envelope) : String := e.message.getD ""

end Envelope

end ChatConsole
