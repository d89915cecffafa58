import ChatConsole.Text.CodeTable

/-! # Sets of code points

A set of code points is a table without values: `a-b` for a run and `a` for a single code point.
-/

namespace ChatConsole.Text

abbrev CodeRanges := CodeTable Unit

namespace CodeRanges

/-- The set whose runs are written on the given lines. -/
def ofLines (lines : List String) : CodeRanges := CodeTable.ofLines (fun _ => ()) lines

def contains (set : CodeRanges) (c : Char) : Bool := (set.find? c).isSome

end CodeRanges

end ChatConsole.Text
