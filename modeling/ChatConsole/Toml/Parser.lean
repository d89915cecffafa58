import ChatConsole.Toml.Document
import ChatConsole.Toml.Numeral

/-! # Parsing TOML

`parse?` reads a whole document. Arrays and inline tables may be nested to a limited depth, and a
dotted key may have a limited number of parts. What an inline table may define twice is decided by
the same rules as for the document.
-/

namespace ChatConsole.Toml

namespace Scan

/-- How deep values may be nested, and how many parts a key may have, at least one less. -/
def nestingLimit : Nat := 80

def isBare (c : Char) : Bool :=
  isDigit c || ('a' ≤ c && c ≤ 'z') || ('A' ≤ c && c ≤ 'Z') || c == '-' || c == '_'

/-- One part of a key. -/
def keyPart : Scan String :=
  short <|> do
    let first ← char isBare
    let rest ← run isBare
    return String.ofList (first :: rest)

/-- A key with its dots and the blanks around its parts. -/
def key : Scan (List String) := do
  let parts ← separated (just '.') (do gap; let part ← keyPart; gap; pure part)
  if parts.length < nestingLimit then pure parts else failure

/-- A key and its value, which is read by `value`. -/
def pair (value : Scan Value) : Scan (List String × Value) := do
  let keys ← key
  just '='
  gap
  let v ← value
  return (keys, v)

/-- What can be said of any list of pairs: no key is defined twice. -/
def isConsistent (pairs : List (List String × Value)) : Bool :=
  (pairs.foldlM (fun (doc : Document) (keys, v) => doc.define [] keys v) []).isSome

/-- An array whose items are read by `value`; a comma may follow the last one. -/
def array (value : Scan Value) : Scan Value := do
  just '['
  let items ← maybe (separated (just ',') (do spread; let v ← value; spread; pure v))
  if items.isSome then let _ ← maybe (just ',')
  spread
  just ']'
  return .array (items.getD [])

/-- An inline table whose values are read by `value`; it stands on one line. -/
def inlineTable (value : Scan Value) : Scan Value := do
  just '\x7b'
  let pairs ← maybe (separated (just ',') (do let p ← pair value; gap; pure p))
  gap
  just '\x7d'
  let pairs := pairs.getD []
  if isConsistent pairs then pure (.inlineTable pairs) else failure

def boolean : Scan Value :=
  (do word "true".toList; pure (.boolean true)) <|> (do word "false".toList; pure (.boolean false))

/-- A value in which at most `depth` arrays and inline tables contain each other. -/
def value : Nat → Scan Value
  | 0, cs => scalar cs
  | depth + 1, cs => (array (value depth) <|> inlineTable (value depth) <|> scalar) cs
where
  scalar : Scan Value :=
    (do let s ← string; pure (.text s)) <|> boolean <|> moment <|> float <|> integer

/-- One line of the document, given the path of the table it belongs to. -/
def line (state : Path × Document) : Scan (Path × Document) := fun cs => do
  let (next, rest) ← (do
    gap
    match ← peek? with
    | some '[' =>
      if (← get).take 2 = ['[', '['] then
        word ['[', '[']
        let keys ← key
        word [']', ']']
        restOfLine
        StateT.lift (state.2.beginPlace keys)
      else
        just '['
        let keys ← key
        just ']'
        restOfLine
        StateT.lift (state.2.beginTable keys)
    | some c =>
      if c = '#' ∨ c = '\n' ∨ c = '\r' then
        restOfLine
        pure state
      else
        let (keys, v) ← pair (value (nestingLimit - 1))
        restOfLine
        StateT.lift ((state.2.define state.1 keys v).map (state.1, ·))
    | none => pure state : Scan (Path × Document)) cs
  some (next, rest)

/-- All lines; each takes at least one character. -/
def lines (state : Path × Document) : Nat → Scan Document
  | 0 => do atEnd; pure state.2
  | n + 1 => do
    if (← get).isEmpty then pure state.2
    else lines (← line state) n

end Scan

/-- The mark that may stand in front of a text. -/
def byteOrderMark : Char := Char.ofNat 0xFEFF

/-- Reads a document. -/
def parse? (s : String) : Option Document :=
  let cs := match s.toList with
    | c :: rest => if c = byteOrderMark then rest else c :: rest
    | [] => []
  (Scan.lines ([], []) cs.length cs).map (·.1)

end ChatConsole.Toml
