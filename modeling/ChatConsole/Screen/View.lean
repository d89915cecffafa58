import ChatConsole.Console
import ChatConsole.Screen.Picture

/-! # The view of the console

From top to bottom: one row of status, then the transcript (or the help) beside the activity log,
then the input line in a frame. The panes shrink with the screen; the status row is the last one to
go.
-/

namespace ChatConsole.Screen

def categoryColor : Category → Color
  | .system => .gray
  | .commandSent => .cyan
  | .commandReceived => .lightBlue
  | .commandResponse => .white
  | .systemBroadcast => .yellow
  | .error => .red

def labelColor : AuthorLabel → Color
  | .system => .darkGray
  | .you => .blue
  | .peer _ => .green

def phaseColor : Session.Phase → Color
  | .connected => .green
  | .connecting => .yellow
  | .disconnected => .red

/-- The lines of an entry: time, author and the first line of the body, then the other lines,
indented. -/
def entryLines (entry : Entry) (label : AuthorLabel) : List Line :=
  let ink := Style.ink (categoryColor entry.category)
  let head (first : String) : Line :=
    [ ⟨"[" ++ entry.createdAt.clockText ++ "] ", .ink .darkGray⟩,
      ⟨label.text ++ ": ", { foreground := some (labelColor label), bold := true }⟩,
      ⟨first, ink⟩ ]
  match entry.bodyLines with
  | [] => [head ""]
  | first :: rest => head first :: rest.map fun line => [⟨"    " ++ line, ink⟩]

/-- The lines of the whole transcript, with the labels that hold now. -/
def transcriptLines (s : Session) : List Line :=
  s.transcript.entries.flatMap fun entry => entryLines entry (s.label entry.origin)

/-- What stands in an empty transcript. -/
def emptyTranscript : List Line :=
  [ [⟨"Select a role and type /connect to start ChatOps.", .ink .darkGray⟩],
    [⟨"Type /help for commands", .ink .darkGray⟩] ]

/-- The first line shown of `total`, `offset` lines back from the last window of `visible` lines. -/
def windowStart (total visible offset : Nat) : Nat :=
  if visible < total then total - visible - min offset (total - visible) else 0

/-- Lines in a frame, wrapped. -/
def wrappedPane (width height : Nat) (style : Style) (title : String) (trim : Bool)
    (lines : List Line) : Picture :=
  let rows :=
    if width - 2 = 0 then [] else lines.flatMap fun line => wrap (width - 2) trim line.glyphs
  framed width height style title (pane (width - 2) (height - 2) rows)

def transcriptTitle (c : Console) : String :=
  if c.following then " Transcript " else " Transcript (scrolled +" ++ toString c.offset ++ ") "

def transcriptPane (width height : Nat) (c : Console) : Picture :=
  let held := transcriptLines c.session
  let lines := if held.isEmpty then emptyTranscript else held
  wrappedPane width height {} (transcriptTitle c) false
    (lines.drop (windowStart lines.length (height - 2) c.offset))

def helpPane (width height : Nat) (c : Console) : Picture :=
  wrappedPane width height (.ink .green) " Help (Esc to close) " false
    ((Help.lines c.session.settings.delay).map fun line => [⟨line, {}⟩])

def activityPane (width height : Nat) (c : Console) : Picture :=
  let lines := lastOf (height - 2) c.session.activity.entries
  wrappedPane width height {} " Activity " true
    (lines.map fun line => [⟨line.shown, .ink .gray⟩])

def statusRow (width : Nat) (now : Time.Instant) (c : Console) : Row :=
  let style : Style :=
    { foreground := some .black, background := some (phaseColor c.session.core.phase) }
  rowOf width (truncate width (Line.glyphs [⟨c.statusText now, style⟩]))

/-- The input line; an empty one tells what can be typed. -/
def inputLine (c : Console) : Line :=
  if c.input.isEmpty then [⟨c.session.placeholder, .ink .darkGray⟩]
  else [⟨"> ", .ink .cyan⟩, ⟨c.input, {}⟩]

def inputPane (width height : Nat) (c : Console) : Picture :=
  let style := Style.ink (if c.session.isConnected then .cyan else .darkGray)
  framed width height style " Command "
    (pane (width - 2) (height - 2) [truncate (width - 2) (inputLine c).glyphs])

/-- The whole screen. -/
def render (width height : Nat) (now : Time.Instant) (c : Console) : Picture :=
  let statusHeight := min 1 height
  let inputHeight := min 3 (height - statusHeight)
  let mainHeight := height - statusHeight - inputHeight
  let leftWidth := (7 * width + 5) / 10
  let left := if c.mode = .help then helpPane leftWidth mainHeight c
    else transcriptPane leftWidth mainHeight c
  let right := activityPane (width - leftWidth) mainHeight c
  let all := (List.replicate statusHeight (statusRow width now c)) ++ beside left right ++
    inputPane width inputHeight c
  all.map uncover

end ChatConsole.Screen
