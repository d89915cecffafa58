/-! # Blank characters and trimming

A character is blank when Unicode gives it the property `White_Space`. Trimming removes the blank
characters at both ends of a text and nothing else; a trimmed text is trimmed to itself.
-/

namespace ChatConsole.Text

/-- The Unicode property `White_Space`. -/
def isBlank (c : Char) : Bool :=
  let n := c.toNat
  (9 ≤ n && n ≤ 13) || n == 0x20 || n == 0x85 || n == 0xA0 || n == 0x1680 ||
    (0x2000 ≤ n && n ≤ 0x200A) || n == 0x2028 || n == 0x2029 || n == 0x202F || n == 0x205F ||
    n == 0x3000

/-- The list without the elements at its end that satisfy `p`. -/
def dropEnd (p : α → Bool) (xs : List α) : List α := (xs.reverse.dropWhile p).reverse

/-- The characters without the blank ones at both ends. -/
def trimChars (cs : List Char) : List Char := dropEnd isBlank (cs.dropWhile isBlank)

/-- The text without the blank characters at both ends. -/
def trim (s : String) : String := String.ofList (trimChars s.toList)

@[simp] theorem toList_trim (s : String) : (trim s).toList = trimChars s.toList := by
  simp [trim]

@[simp] theorem dropEnd_nil (p : α → Bool) : dropEnd p ([] : List α) = [] := rfl

theorem dropEnd_append_singleton (p : α → Bool) (xs : List α) (x : α) :
    dropEnd p (xs ++ [x]) = if p x then dropEnd p xs else xs ++ [x] := by
  by_cases hx : p x <;> simp [dropEnd, hx]

end ChatConsole.Text
