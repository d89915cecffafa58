/-! # Splitting texts

A text is split at every occurrence of a separator: there is always one piece more than there are
separators, and the pieces with separators between them are the text again.
-/

namespace ChatConsole.Text

/-- The pieces between the occurrences of a separator. -/
def splitAt (separator : Char) : List Char → List (List Char)
  | [] => [[]]
  | c :: cs =>
    if c = separator then [] :: splitAt separator cs
    else
      match splitAt separator cs with
      | [] => [[c]]
      | piece :: pieces => (c :: piece) :: pieces

theorem splitAt_ne_nil (separator : Char) (cs : List Char) : splitAt separator cs ≠ [] := by
  cases cs with
  | nil => simp [splitAt]
  | cons c cs =>
    rw [splitAt]
    split
    · simp
    · split <;> simp

/-- The lines of a text: a break at its end begins no further line, and a carriage return before
a break belongs to it. -/
def lines (cs : List Char) : List (List Char) :=
  let pieces := splitAt '\n' cs
  (if pieces.getLast? = some [] then pieces.dropLast else pieces).map fun line =>
    if line.getLast? = some '\r' then line.dropLast else line

end ChatConsole.Text
