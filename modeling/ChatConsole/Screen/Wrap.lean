import ChatConsole.Screen.Style

/-! # Wrapping

A line that is too long for its pane goes on in further rows. Rows end at blanks where that is
possible, and the blanks a row ends at are not shown. Trimming also leaves out the blanks at the
start of each row. Every line gets at least one row.
-/

namespace ChatConsole.Screen

/-- A line that is being wrapped: finished rows, the row that is being filled, and the blanks and
the word that follow it. -/
structure Wrapping where
  rows : List (List Glyph) := []
  row : List Glyph := []
  blanks : List Glyph := []
  word : List Glyph := []
  /-- Whether the last glyph was part of a word. -/
  inWord : Bool := false

namespace Wrapping

/-- The blanks without those at their start that fit into the room. -/
def dropFitting (room : Nat) : List Glyph → List Glyph
  | [] => []
  | g :: rest => if g.columns ≤ room then dropFitting (room - g.columns) rest else g :: rest

/-- Moves blanks and word to the row. A trimmed row does not begin with blanks. -/
def settle (trim : Bool) (w : Wrapping) : Wrapping :=
  let blanks := if w.row.isEmpty && trim then [] else w.blanks
  { w with row := w.row ++ blanks ++ w.word, blanks := [], word := [] }

/-- Whether blanks and word belong to the row before the glyph is looked at. -/
def isSettled (limit : Nat) (trim : Bool) (w : Wrapping) (g : Glyph) : Bool :=
  (w.inWord && g.isBlank) ||
    (w.row.isEmpty &&
      if trim then
        limit < width w.word + g.columns || limit < width w.blanks + g.columns
      else limit < width w.word + width w.blanks + g.columns)

/-- Whether the row ends before the glyph. -/
def isFull (limit : Nat) (w : Wrapping) (g : Glyph) : Bool :=
  limit ≤ width w.row ||
    (0 < g.columns && limit ≤ width w.row + width w.blanks + width w.word)

/-- Ends the row, and leaves out the blanks that would still have fitted. -/
def breakRow (limit : Nat) (w : Wrapping) : Wrapping :=
  { w with
    rows := w.rows ++ [w.row]
    row := []
    blanks := dropFitting (limit - width w.row) w.blanks }

/-- Adds the glyph to the blanks or to the word. -/
def put (w : Wrapping) (g : Glyph) : Wrapping :=
  if g.isBlank then { w with blanks := w.blanks ++ [g], inWord := false }
  else { w with word := w.word ++ [g], inWord := true }

/-- Takes in one glyph. Glyphs wider than the limit are left out, and so is a blank at which a
row ended. -/
def step (limit : Nat) (trim : Bool) (w : Wrapping) (g : Glyph) : Wrapping :=
  if limit < g.columns then w
  else
    let w := if w.isSettled limit trim g then w.settle trim else w
    if w.isFull limit g then
      let w := w.breakRow limit
      if g.isBlank && w.blanks.isEmpty then w else w.put g
    else w.put g

/-- All rows at the end of the line. Blanks alone make an empty row in front. -/
def finish (trim : Bool) (w : Wrapping) : List (List Glyph) :=
  let lone := if w.row.isEmpty && w.word.isEmpty && !w.blanks.isEmpty then [[]] else []
  let last := (w.settle trim).row
  let rows := w.rows ++ lone ++ (if last.isEmpty then [] else [last])
  if rows.isEmpty then [[]] else rows

end Wrapping

/-- The rows of a line in a pane that is `limit` columns wide. -/
def wrap (limit : Nat) (trim : Bool) (glyphs : List Glyph) : List (List Glyph) :=
  (glyphs.foldl (Wrapping.step limit trim) {}).finish trim

/-- The glyphs at the start of a line that fit into the room. -/
def fitting (room : Nat) : List Glyph → List Glyph
  | [] => []
  | g :: rest => if g.columns ≤ room then g :: fitting (room - g.columns) rest else []

/-- The one row of a line that is cut instead of being wrapped. -/
def truncate (limit : Nat) (glyphs : List Glyph) : List Glyph :=
  fitting limit (glyphs.filter (·.columns ≤ limit))

end ChatConsole.Screen
