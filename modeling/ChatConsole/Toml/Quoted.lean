import ChatConsole.Toml.Scan

/-! # TOML strings

There are four kinds of strings: basic ones with escapes and literal ones without, each on one line
or on several. A string on several lines leaves out a line break right after its opening quotes, has
plain line feeds at its other breaks, and may end in one or two quotes of its own.
-/

namespace ChatConsole.Toml.Scan

/-- What a hexadecimal digit of either case stands for. -/
def hexValue? (c : Char) : Option Nat :=
  let n := c.toNat
  if 48 ≤ n ∧ n ≤ 57 then some (n - 48)
  else if 65 ≤ n ∧ n ≤ 70 then some (n - 55)
  else if 97 ≤ n ∧ n ≤ 102 then some (n - 87)
  else none

/-- Exactly `n` hexadecimal digits, added to the number `acc`. -/
def hexDigits (acc : Nat) : Nat → Scan Nat
  | 0 => pure acc
  | n + 1 => do
    let c ← char fun c => (hexValue? c).isSome
    hexDigits (acc * 16 + (hexValue? c).getD 0) n

/-- A character by its number. -/
def numbered (digits : Nat) : Scan Char := do
  let n ← hexDigits 0 digits
  if n.isValidChar then pure (Char.ofNat n) else failure

/-- What stands after a backslash. -/
def escaped : Scan Char := do
  match ← char fun _ => true with
  | 'b' => pure (Char.ofNat 8)
  | 't' => pure '\t'
  | 'n' => pure '\n'
  | 'f' => pure (Char.ofNat 12)
  | 'r' => pure '\r'
  | '"' => pure '"'
  | '\\' => pure '\\'
  | 'u' => numbered 4
  | 'U' => numbered 8
  | _ => failure

def basicChar : Scan Char :=
  (do just '\\'; escaped) <|> char fun c => isPlain c && c != '"' && c != '\\'

def basic : Scan String := do
  just '"'
  let cs ← many basicChar
  just '"'
  return String.ofList cs

def isLiteral (c : Char) : Bool := isPlain c && c != '\''

def literal : Scan String := do
  just '\''
  let cs ← run isLiteral
  just '\''
  return String.ofList cs

/-- A backslash at the end of a line leaves out all blanks and line ends after it. -/
def foldedEnd : Scan Unit := do
  just '\\'
  gap
  lineEnd
  let _ ← many ((do let _ ← char isGap) <|> lineEnd)

/-- Three quotes, and before them the one or two that belong to the text. -/
def closing (quote : Char) : Scan (List Char) := do
  word [quote, quote, quote]
  let more ← run (· == quote)
  if more.length ≤ 2 then pure more else failure

/-- One or two quotes inside the text. -/
def innerQuotes (quote : Char) : Scan (List Char) := do
  let quotes ← run (· == quote)
  if 1 ≤ quotes.length ∧ quotes.length ≤ 2 then pure quotes else failure

/-- A string on several lines, whose pieces are read by `piece`. -/
def tall (quote : Char) (piece : Scan (List Char)) : Scan String := do
  word [quote, quote, quote]
  let _ ← maybe lineEnd
  let pieces ← many piece
  let last ← closing quote
  return String.ofList (pieces.flatten ++ last)

def tallBasic : Scan String :=
  tall '"'
    ((do let c ← basicChar; pure [c]) <|> (do foldedEnd; pure []) <|> (do lineEnd; pure ['\n']) <|>
      innerQuotes '"')

def tallLiteral : Scan String :=
  tall '\''
    ((do let c ← char isLiteral; pure [c]) <|> (do lineEnd; pure ['\n']) <|> innerQuotes '\'')

/-- A string on one line. -/
def short : Scan String := basic <|> literal

/-- Any string. -/
def string : Scan String := tallBasic <|> tallLiteral <|> short

end ChatConsole.Toml.Scan
