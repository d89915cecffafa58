import ChatConsole.Screen.Wrap

/-! # Pictures

A picture is a grid of cells, row by row. Panes are drawn with a frame and a title, put side by side
and on top of each other. A cluster of two columns stands in its first cell and hides the second
one.
-/

namespace ChatConsole.Screen

structure Cell where
  symbol : List Char := [' ']
  style : Style := {}
  deriving DecidableEq, Repr

/-- A cell on which nothing was drawn. -/
def Cell.blank : Cell := {}

abbrev Row := List Cell
abbrev Picture := List Row

/-- The cells of a glyph; one without columns has none. -/
def Glyph.cells (g : Glyph) : Row :=
  match g.columns with
  | 0 => []
  | hidden + 1 => ⟨g.cluster, g.style⟩ :: List.replicate hidden Cell.blank

/-- The glyphs at the left of a row of the given width. -/
def rowOf (width : Nat) (glyphs : List Glyph) : Row :=
  let cells := glyphs.flatMap Glyph.cells
  (cells ++ List.replicate (width - cells.length) Cell.blank).take width

/-- The first rows in a pane of the given size, blank below. -/
def pane (width height : Nat) (rows : List (List Glyph)) : Picture :=
  let shown := (rows.take height).map (rowOf width)
  shown ++ List.replicate (height - shown.length) (rowOf width [])

/-- A pane with a frame around it and a title on its upper edge. -/
def framed (width height : Nat) (style : Style) (title : String) (inner : Picture) : Picture :=
  let edge (c : Char) : Cell := ⟨[c], style⟩
  let name := (title.toList.take (width - 2)).map edge
  let top := edge '┌' :: name ++ List.replicate (width - 2 - name.length) (edge '─') ++ [edge '┐']
  let bottom := edge '└' :: List.replicate (width - 2) (edge '─') ++ [edge '┘']
  let middle := inner.map fun row => edge '│' :: row ++ [edge '│']
  ((top :: middle.take (height - 2)) ++ [bottom]).take height |>.map (List.take width)

/-- Two pictures of one height side by side. -/
def beside (left right : Picture) : Picture := List.zipWith (· ++ ·) left right

/-- The row as it appears: a cell after one of two columns is hidden. -/
def uncover : Row → Row
  | [] => []
  | cell :: rest =>
    cell :: List.zipWith (fun before c => if 1 < Text.columns before.symbol then Cell.blank else c)
      (cell :: rest) rest

/-- A stretch of cells in one style. -/
structure Stretch where
  text : List Char
  style : Style
  deriving DecidableEq, Repr

/-- The stretches of a row; neighbours differ in style. -/
def stretches : Row → List Stretch
  | [] => []
  | cell :: rest =>
    match stretches rest with
    | [] => [⟨cell.symbol, cell.style⟩]
    | next :: more =>
      if cell.style = next.style then ⟨cell.symbol ++ next.text, next.style⟩ :: more
      else ⟨cell.symbol, cell.style⟩ :: next :: more

end ChatConsole.Screen
