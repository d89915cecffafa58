import ChatConsole.Text.Quoted
import ChatConsole.Url.Basic
import ChatConsole.Role

/-! # Channels

A channel is one connection to the gateway. Every attempt to open one has a number of its own, which
is never used again within a session. What happens on a channel comes in as events; what is sent
goes out through a pipe of frames whose two ends can be given up separately.
-/

namespace ChatConsole

/-- The number of an attempt to open a channel. -/
structure ChannelId where
  number : Nat
  deriving DecidableEq, Repr

namespace ChannelId

def next (id : ChannelId) : ChannelId := ⟨id.number + 1⟩

def text (id : ChannelId) : String := "#" ++ toString id.number

end ChannelId

/-- What happened on a channel. -/
inductive ChannelEvent
  | opened (channel : ChannelId)
  | message (channel : ChannelId) (raw : String)
  | closed (channel : ChannelId) (reason : Option String)
  | failed (channel : ChannelId) (description : String)
  deriving DecidableEq, Repr

namespace ChannelEvent

def channel : ChannelEvent → ChannelId
  | .opened id => id
  | .message id _ => id
  | .closed id _ => id
  | .failed id _ => id

/-- No event of the channel follows this one. -/
def isTerminal : ChannelEvent → Bool
  | .closed .. => true
  | _ => false

/-- The event as the journal shows it. -/
def description (e : ChannelEvent) : String :=
  let (name, field) := match e with
    | .opened _ => ("Opened", "")
    | .message _ raw => ("Message", ", raw: " ++ Text.quoted raw)
    | .closed _ none => ("Closed", ", reason: None")
    | .closed _ (some reason) => ("Closed", ", reason: Some(" ++ Text.quoted reason ++ ")")
    | .failed _ description => ("Error", ", description: " ++ Text.quoted description)
  name ++ " \x7b channel: ChannelId(" ++ toString e.channel.number ++ ")" ++ field ++ " \x7d"

end ChannelEvent

/-- Why a channel could not be opened or used. -/
inductive ChannelError
  | invalidEndpoint (endpoint : String) (fault : Url.Fault)
  | unsupportedScheme (scheme : String)
  | refused (message : String)
  | gone (channel : ChannelId)
  deriving DecidableEq, Repr

def ChannelError.message : ChannelError → String
  | .invalidEndpoint endpoint fault =>
    "invalid endpoint '" ++ endpoint ++ "': " ++ fault.message
  | .unsupportedScheme scheme =>
    "unsupported endpoint scheme '" ++ scheme ++ "' (expected ws or wss)"
  | .refused message => "failed to open channel: " ++ message
  | .gone id => "channel " ++ id.text ++ " is no longer running"

/-- What is asked of the other end of a channel. -/
inductive Frame
  | text (s : String)
  | close
  deriving DecidableEq, Repr

/-- The outgoing side of a channel: frames wait in it, oldest first, until they are taken out. -/
structure Pipe where
  id : ChannelId
  waiting : List Frame := []
  senderHeld : Bool := true
  receiverHeld : Bool := true
  deriving DecidableEq, Repr

namespace Pipe

/-- What is found at the receiving end. -/
inductive Received
  | frame (f : Frame)
  | nothing
  | disconnected
  deriving DecidableEq, Repr

/-- Puts a text into the pipe, unless nobody would take it out. -/
def send (pipe : Pipe) (s : String) : Except ChannelError Pipe :=
  if pipe.receiverHeld then .ok { pipe with waiting := pipe.waiting ++ [.text s] }
  else .error (.gone pipe.id)

/-- Asks for the end of the channel and gives up the sending end. -/
def close (pipe : Pipe) : Pipe :=
  { pipe with
    waiting := if pipe.receiverHeld then pipe.waiting ++ [.close] else pipe.waiting
    senderHeld := false }

/-- Gives up the sending end without a word. -/
def drop (pipe : Pipe) : Pipe := { pipe with senderHeld := false }

/-- Gives up the receiving end, and with it all that still waits. -/
def dropReceiver (pipe : Pipe) : Pipe := { pipe with waiting := [], receiverHeld := false }

/-- Takes out the oldest frame. -/
def receive (pipe : Pipe) : Received × Pipe :=
  match pipe.waiting with
  | f :: rest => (.frame f, { pipe with waiting := rest })
  | [] => (if pipe.senderHeld then .nothing else .disconnected, pipe)

end Pipe

end ChatConsole
