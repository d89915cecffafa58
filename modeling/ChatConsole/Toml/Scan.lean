import ChatConsole.Toml.Value

/-! # Reading TOML

Readers take what they read from the front of a list of characters and fail without a result. A loop
may take as many turns as there are characters left, which is enough, since every turn takes at
least one.
-/

namespace ChatConsole.Toml

abbrev Scan := StateT (List Char) Option

namespace Scan

/-- The next character, without taking it. -/
def peek? : Scan (Option Char) := fun cs => some (cs.head?, cs)

/-- Takes a character of a kind. -/
def char (p : Char → Bool) : Scan Char
  | c :: cs => if p c then some (c, cs) else none
  | [] => none

/-- Takes exactly this character. -/
def just (c : Char) : Scan Unit := do let _ ← char (· == c)

/-- Takes exactly these characters. -/
def word (s : List Char) : Scan Unit := fun cs =>
  if s.isPrefixOf cs then some ((), cs.drop s.length) else none

/-- Takes the longest run of characters of a kind. -/
def run (p : Char → Bool) : Scan (List Char) := fun cs => some (cs.takeWhile p, cs.dropWhile p)

/-- Takes something if it is there. -/
def maybe (reader : Scan α) : Scan (Option α) := (some <$> reader) <|> pure none

/-- Takes things as long as there are any, `n` at most. -/
def manyUpTo (reader : Scan α) : Nat → Scan (List α)
  | 0 => pure []
  | n + 1 => do
    match ← maybe reader with
    | none => pure []
    | some x => return x :: (← manyUpTo reader n)

def many (reader : Scan α) : Scan (List α) := do manyUpTo reader (← get).length

/-- Things with a separator between them, at least one. -/
def separated (separator : Scan Unit) (reader : Scan α) : Scan (List α) := do
  let first ← reader
  let rest ← many (do separator; reader)
  return first :: rest

/-- Succeeds at the end of the text. -/
def atEnd : Scan Unit := fun cs => if cs.isEmpty then some ((), cs) else none

/-! ## Blanks, line ends and comments -/

def isGap (c : Char) : Bool := c == ' ' || c == '\t'

def gap : Scan Unit := do let _ ← run isGap

def lineEnd : Scan Unit := just '\n' <|> word ['\r', '\n']

/-- Characters that may stand in a comment: no controls but the tab. -/
def isPlain (c : Char) : Bool :=
  let n := c.toNat
  n == 9 || (0x20 ≤ n && n ≤ 0x7E) || 0x80 ≤ n

def comment : Scan Unit := do
  just '#'
  let _ ← run isPlain

/-- The end of a line that may have a comment. -/
def restOfLine : Scan Unit := do
  gap
  let _ ← maybe comment
  lineEnd <|> atEnd

/-- Blanks, line ends and comments, as they may stand between the items of an array. -/
def spread : Scan Unit := do
  let _ ← many ((do let _ ← char isGap) <|> lineEnd <|> comment)

end Scan

end ChatConsole.Toml
