import ChatConsole.Retained
import ChatConsole.Time.Instant

/-! # The activity log

One line for each notable event, with the time of day in front. Transcript entries appear in it as a
preview of at most fifty characters.
-/

namespace ChatConsole

structure ActivityLine where
  createdAt : Time.Instant
  text : String

/-- The line as it is shown. -/
def ActivityLine.shown (line : ActivityLine) : String :=
  "[" ++ line.createdAt.clockText ++ "] " ++ line.text

abbrev Activity := Retained ActivityLine

namespace Activity

/-- How many lines are kept unless the settings say otherwise. -/
def defaultLimit : Nat := 200

/-- How much of a body a preview shows. -/
def previewLength : Nat := 50

/-- The first fifty characters, followed by dots if there are more. -/
def preview (s : String) : String :=
  let cs := s.toList
  if cs.length ≤ previewLength then s
  else String.ofList (cs.take previewLength ++ ['.', '.', '.'])

end Activity

end ChatConsole
