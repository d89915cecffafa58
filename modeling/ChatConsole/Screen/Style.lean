import ChatConsole.Text.Blank
import ChatConsole.Text.Columns

/-! # Styled text

A span is a text in one style and a line is a list of spans. On the screen a line is a list of
glyphs: the clusters of its spans, each with the style of its own span. Line breaks inside a span
are not shown.
-/

namespace ChatConsole.Screen

inductive Color
  | black | red | green | yellow | blue | cyan | gray | darkGray | lightBlue | white
  deriving DecidableEq, Repr

def Color.name : Color → String
  | .black => "Black"
  | .red => "Red"
  | .green => "Green"
  | .yellow => "Yellow"
  | .blue => "Blue"
  | .cyan => "Cyan"
  | .gray => "Gray"
  | .darkGray => "DarkGray"
  | .lightBlue => "LightBlue"
  | .white => "White"

/-- Colours, where `none` leaves the choice to the terminal, and weight. -/
structure Style where
  foreground : Option Color := none
  background : Option Color := none
  bold : Bool := false
  deriving DecidableEq, Repr

/-- A style with a foreground colour. -/
def Style.ink (color : Color) : Style := { foreground := some color }

structure Span where
  text : String
  style : Style := {}
  deriving DecidableEq, Repr

abbrev Line := List Span

/-- One cluster in its style. -/
structure Glyph where
  cluster : List Char
  style : Style
  deriving DecidableEq, Repr

namespace Glyph

def columns (g : Glyph) : Nat := Text.columns g.cluster

/-- Whether a line may be broken at the glyph. A no-break space is no place to break, and a space of
width zero is. -/
def isBlank (g : Glyph) : Bool :=
  g.cluster == [Char.ofNat 0x200B] ||
    (g.cluster.all Text.isBlank && g.cluster != [Char.ofNat 0xA0])

end Glyph

def Span.glyphs (s : Span) : List Glyph :=
  ((Text.clusters s.text.toList).filter (· != ['\n'])).map fun cluster => ⟨cluster, s.style⟩

def Line.glyphs (line : Line) : List Glyph := line.flatMap Span.glyphs

/-- The columns that glyphs take together. -/
def width (glyphs : List Glyph) : Nat := (glyphs.map Glyph.columns).foldr (· + ·) 0

end ChatConsole.Screen
