import ChatConsole.OpenRequest

/-! # The gateway

The other side of the channels. A gateway may accept an open request and keep a line for it, accept
it without listening, refuse it, or leave it to the network. A line receives the frames that were
sent on its channel; frames wait in the pipe until the line is looked at, and looking never changes
what is seen.
-/

namespace ChatConsole

/-- What an accepted channel is connected to. -/
inductive Link
  /-- A line of the gateway. -/
  | line
  /-- Nobody: whatever is sent fails. -/
  | deaf
  /-- The network, which takes everything as long as it runs. -/
  | network
  deriving DecidableEq, Repr

/-- How the gateway answers open requests. -/
inductive Policy
  | accept
  | refuse (message : String)
  | ignore
  | network
  deriving DecidableEq, Repr

namespace Gateway

/-- The far end of one accepted channel. -/
structure Line where
  request : OpenRequest
  pipe : Pipe
  /-- The texts taken out of the pipe so far, oldest first. -/
  sent : List String := []
  /-- Whether the other side was found to be gone. -/
  closed : Bool := false
  deriving DecidableEq

namespace Line

def ofRequest (request : OpenRequest) : Line := ⟨request, { id := request.channel }, [], false⟩

/-- Takes note of one frame. -/
def take (line : Line) : Frame → Line
  | .text s => { line with sent := line.sent ++ [s] }
  | .close => { line with closed := true }

/-- Empties the pipe. A pipe that nobody can fill any more closes the line. -/
def collect (line : Line) : Line :=
  let read := line.pipe.waiting.foldl take line
  { read with
    pipe := { line.pipe with waiting := [] }
    closed := read.closed || !line.pipe.senderHeld }

end Line

end Gateway

structure Gateway where
  policy : Policy := .accept
  /-- Whether the network still runs. -/
  running : Bool := true
  /-- One line for each accepted request, oldest first. -/
  lines : List Gateway.Line := []
  deriving DecidableEq

namespace Gateway

/-- The answer to an open request. -/
def answer (g : Gateway) : Except ChannelError Link :=
  match g.policy with
  | .accept => .ok .line
  | .refuse message => .error (.refused message)
  | .ignore => .ok .deaf
  | .network => .ok .network

/-- Whether what is sent over the link is taken. -/
def takes (g : Gateway) : Link → Bool
  | .line => true
  | .deaf => false
  | .network => g.running

/-- Adds a line for an accepted request. -/
def accept (g : Gateway) (request : OpenRequest) : Link → Gateway
  | .line => { g with lines := g.lines ++ [.ofRequest request] }
  | .deaf | .network => g

/-- Changes the first line of a channel. -/
def onLine (g : Gateway) (id : ChannelId) (f : Line → Line) : Gateway :=
  { g with lines := go g.lines }
where
  go : List Line → List Line
    | [] => []
    | line :: rest => if line.request.channel = id then f line :: rest else line :: go rest

/-- Changes the pipe of a channel. -/
def onPipe (g : Gateway) (id : ChannelId) (f : Pipe → Pipe) : Gateway :=
  g.onLine id fun line => { line with pipe := f line.pipe }

def deliver (g : Gateway) (id : ChannelId) (s : String) : Gateway :=
  g.onPipe id fun pipe => (pipe.send s).toOption.getD pipe

/-- The session closed the channel. -/
def close (g : Gateway) (id : ChannelId) : Gateway := g.onPipe id Pipe.close

/-- The session gave the channel up without a word. -/
def drop (g : Gateway) (id : ChannelId) : Gateway := g.onPipe id Pipe.drop

def line? (g : Gateway) (id : ChannelId) : Option Line :=
  g.lines.find? (·.request.channel == id)

/-- Whether a line was opened for the channel. -/
def knows (g : Gateway) (id : ChannelId) : Bool := (g.line? id).isSome

/-- The texts that came in on a channel, and the gateway after looking. -/
def sent (g : Gateway) (id : ChannelId) : List String × Gateway :=
  let g := g.onLine id Line.collect
  (((g.line? id).map Line.sent).getD [], g)

/-- Whether the session has ended a channel, and the gateway after looking. -/
def closedByClient (g : Gateway) (id : ChannelId) : Bool × Gateway :=
  let g := g.onLine id Line.collect
  ((g.line? id).any Line.closed, g)

/-- How many lines the session still holds, and the gateway after looking. -/
def liveCount (g : Gateway) : Nat × Gateway :=
  let g := { g with lines := g.lines.map Line.collect }
  ((g.lines.filter (!·.closed)).length, g)

/-- The channel of the newest line. -/
def latest? (g : Gateway) : Option ChannelId := g.lines.getLast?.map (·.request.channel)

end Gateway

end ChatConsole
