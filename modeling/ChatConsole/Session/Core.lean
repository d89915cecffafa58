import ChatConsole.Gateway
import ChatConsole.Journal
import ChatConsole.Reconnect
import ChatConsole.Transcript

/-! # The core of a session

A session owns at most one channel. Its core is what decides: each intent and each event of the
channel gives a new core and the effects that others have to carry out, in order. The core never
looks at what was shown or sent before; it sees the rest of the world through `Conditions` alone.
-/

namespace ChatConsole.Session

/-- How far the connection has come. -/
inductive Phase
  | disconnected | connecting | connected
  deriving DecidableEq, Repr

def Phase.label : Phase → String
  | .disconnected => "Disconnected"
  | .connecting => "Connecting"
  | .connected => "Connected"

/-- The channel that a session holds. -/
structure Held where
  id : ChannelId
  /-- The role it was opened with. -/
  role : Role
  link : Link
  deriving DecidableEq

structure Core where
  /-- The role for the next channel. -/
  role : Role
  /-- Who the gateway says the user of this channel is. -/
  identity : Option String := none
  phase : Phase := .disconnected
  channel : Option Held := none
  nextId : ChannelId := ⟨1⟩
  pending : Option Reconnect := none
  deriving DecidableEq

/-- What a step of the core leaves to others. -/
inductive Effect
  /-- A new entry of the transcript. -/
  | entry (category : Category) (origin body : String)
  /-- The transcript is emptied. -/
  | wipe
  /-- A new line of the activity log. -/
  | notice (text : String)
  /-- A note for the journal. -/
  | note (n : Journal.Note)
  /-- An open request was accepted. -/
  | opened (request : OpenRequest) (link : Link)
  /-- A text is sent on a channel. -/
  | sent (channel : ChannelId) (text : String)
  /-- A channel is closed. -/
  | closed (channel : ChannelId)
  /-- A channel is given up without a word. -/
  | dropped (channel : ChannelId)
  deriving DecidableEq

/-- What the core sees of the world. -/
structure Conditions where
  endpoint : String
  delay : Time.Duration
  /-- The answer to an open request. -/
  answer : OpenRequest → Except ChannelError Link
  /-- Whether a link takes what is sent over it. -/
  takes : Link → Bool

/-- A new core and what is left to do. -/
abbrev Step := Core × List Effect

namespace Effect

/-- A note of the session itself. -/
def say (level : Journal.Level) (message : String) (fields : List (String × String)) : Effect :=
  .note ⟨level, .session, some message, fields⟩

/-- An entry of the session itself. -/
def remark (category : Category) (body : String) : Effect := .entry category systemOrigin body

end Effect

namespace Core

open Effect (say remark)

def isConnected (c : Core) : Bool := c.phase == .connected

/-- The role of the channel, or else the one for the next channel. -/
def activeRole (c : Core) : Role := (c.channel.map Held.role).getD c.role

def activeId? (c : Core) : Option ChannelId := c.channel.map Held.id

/-! ## Intents -/

/-- Closes the channel, if there is one, and gives up a pending reconnect. -/
def disconnect (c : Core) : Step :=
  let cancelled := if c.pending.isSome then [say .debug "pending reconnect cancelled" []] else []
  let c := { c with pending := none }
  match c.channel with
  | none => (c, cancelled)
  | some held =>
    ({ c with channel := none, phase := .disconnected, identity := none },
      cancelled ++
        [ .closed held.id,
          say .info "disconnected" [("channel", held.id.text)],
          remark .system "Disconnected." ])

/-- The note of a network channel. -/
def networkNote (request : OpenRequest) : Effect :=
  .note ⟨.info, .transport, some "opening channel",
    [("channel", request.channel.text), ("url", request.url.text)]⟩

/-- The effects of an accepted request. -/
def acceptance (endpoint : String) (request : OpenRequest) (link : Link) : List Effect :=
  (if link = .network then [networkNote request] else []) ++
    [ .opened request link,
      .notice ("Connecting to " ++ endpoint ++ " as " ++ request.role.tag ++ "...") ]

/-- Opens a channel with the next number. -/
def openNext (w : Conditions) (role : Role) (c : Core) : Step :=
  let id := c.nextId
  let c := { c with role, nextId := id.next }
  match OpenRequest.make id w.endpoint role with
  | .error e =>
    (c,
      [ say .warn ("channel open rejected: " ++ e.message) [],
        remark .error ("Failed to connect: " ++ e.message) ])
  | .ok request =>
    let attempt := say .info "connecting"
      [("channel", id.text), ("role", role.tag), ("url", request.url.text)]
    match w.answer request with
    | .ok link =>
      ({ c with channel := some ⟨id, role, link⟩, phase := .connecting },
        attempt :: acceptance w.endpoint request link)
    | .error e =>
      ({ c with phase := .disconnected },
        [ attempt,
          say .warn ("channel open failed: " ++ e.message) [("channel", id.text)],
          remark .error ("Failed to connect: " ++ e.message) ])

/-- Closes what is open and opens a channel with the role. -/
def connect (w : Conditions) (role : Role) (c : Core) : Step :=
  let c := { c with pending := none }
  let (c, closing) := if c.channel.isSome then c.disconnect else (c, [])
  let (c, opening) := c.openNext w role
  (c, closing ++ opening)

/-- Takes a new role. A connected session closes its channel and opens another one after the
delay; a reconnect that was already pending starts over. -/
def changeRole (w : Conditions) (role : Role) (now : Time.Instant) (c : Core) : Step :=
  let again := c.isConnected || c.pending.isSome
  let c := { c with role }
  let change := Effect.notice ("Role changed to: " ++ role.tag)
  if again then
    let (c, closing) := c.disconnect
    ({ c with pending := some (.schedule role now w.delay) },
      change :: closing ++
        [say .debug "reconnect scheduled" [("role", role.tag), ("delay", w.delay.text)]])
  else (c, [change])

/-- The role of a reconnect that is due. -/
def dueRole? (c : Core) (now : Time.Instant) : Option Role :=
  (c.pending.filter (·.isDue now)).map Reconnect.role

/-- Carries out the reconnect if it is due. -/
def tick (w : Conditions) (now : Time.Instant) (c : Core) : Step :=
  match c.dueRole? now with
  | some role => c.connect w role
  | none => (c, [])

/-- The outcome of sending a text. -/
inductive Sending
  | offline
  | blank
  | failed (e : ChannelError)
  | sent (channel : ChannelId) (text : String)
  deriving DecidableEq

/-- What becomes of a text to be sent. Only a connected session sends, and not the blanks around
it. -/
def sending (w : Conditions) (s : String) (c : Core) : Sending :=
  let text := Text.trim s
  if !c.isConnected then .offline
  else if text.isEmpty then .blank
  else
    match c.channel with
    | none => .blank
    | some held => if w.takes held.link then .sent held.id text else .failed (.gone held.id)

def Sending.effects : Sending → List Effect
  | offline => [remark .error "Not connected. Use /connect first."]
  | blank => []
  | failed e =>
    [say .warn ("send failed: " ++ e.message) [], remark .error ("Send failed: " ++ e.message)]
  | sent id text =>
    [.sent id text, say .debug "command sent" [("channel", id.text), ("command", text)]]

def Sending.succeeded : Sending → Bool
  | sent .. => true
  | _ => false

/-! ## Events of the channel -/

def onOpened (c : Core) : Step :=
  let role := c.activeRole.tag
  ({ c with phase := .connected },
    [ say .info "channel open" [("role", role)],
      remark .system ("Connected to ChatOps as " ++ role),
      .notice ("Channel connected as " ++ role) ])

/-- The gateway sends a command back to its author only: the first one names the user. -/
def adoptIdentity (origin : String) (c : Core) : Step :=
  if c.identity.isNone ∧ c.isConnected ∧ origin ≠ systemOrigin then
    ({ c with identity := some origin }, [say .info "identity assigned" [("identity", origin)]])
  else (c, [])

/-- The category of the entry that a message becomes, if it becomes one as it is. -/
def categoryOf : MessageTag → Option Category
  | .system => some .system
  | .commandSent => some .commandSent
  | .commandReceived => some .commandReceived
  | .commandResponse => some .commandResponse
  | .systemBroadcast => some .systemBroadcast
  | .error => some .error
  | .clearChat | .unknown => none

/-- Takes in one payload. -/
def onMessage (raw : String) (c : Core) : Step :=
  match Envelope.decode raw with
  | none => (c, [say .debug "dropping undecodable payload" [("raw", raw)]])
  | some envelope =>
    match categoryOf envelope.messageTag with
    | some category =>
      let (c, naming) :=
        if category = .commandSent then c.adoptIdentity envelope.origin else (c, [])
      (c, naming ++ [.entry category envelope.origin envelope.body])
    | none =>
      if envelope.messageTag = .clearChat then (c, [.wipe, remark .system "Transcript cleared."])
      else (c, [remark .system ("Unknown message: " ++ raw)])

/-- The reason of a close as the journal shows it. -/
def reasonNote : Option String → String
  | none => "None"
  | some reason => "Some(" ++ Text.quoted reason ++ ")"

def onClosed (reason : Option String) (c : Core) : Step :=
  let body := match reason with
    | some reason => "Connection closed (" ++ reason ++ ")."
    | none => "Connection closed."
  ({ c with channel := none, phase := .disconnected, identity := none },
    c.activeId?.toList.map .dropped ++
      [say .info "channel closed" [("reason", reasonNote reason)], remark .system body])

/-- A fault does not change the connection; a close follows if there has to be one. -/
def onFailed (description : String) (c : Core) : Step :=
  let stem := String.ofList (Text.dropEnd (· == '.') description.toList)
  (c,
    [ say .warn "channel error" [("description", description)],
      remark .error ("Channel error: " ++ stem ++ ". Check if the server is running.") ])

/-- Takes in an event; those of any channel but the one held are left out. -/
def onEvent (e : ChannelEvent) (c : Core) : Step :=
  if c.activeId? = some e.channel then
    match e with
    | .opened _ => c.onOpened
    | .message _ raw => c.onMessage raw
    | .closed _ reason => c.onClosed reason
    | .failed _ description => c.onFailed description
  else
    (c,
      [say .debug "dropping event from inactive channel"
        [("channel", e.channel.text), ("event", e.description)]])

end Core

end ChatConsole.Session
