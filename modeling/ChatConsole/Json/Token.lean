import ChatConsole.Json.Number

/-! # JSON tokens

`Token.scan` splits a text into tokens. It fails where no token can begin, at a control character or
a wrong escape inside a string, at half of a surrogate pair, and at a numeral that is no number.
-/

namespace ChatConsole.Json

inductive Token
  | openBrace | closeBrace | openBracket | closeBracket | comma | colon
  | null
  | bool (b : Bool)
  | number (n : Number)
  | text (s : String)
  deriving DecidableEq

namespace Token

def isSpace (c : Char) : Bool := c == ' ' || c == '\n' || c == '\t' || c == '\r'

def punctuation? (c : Char) : Option Token :=
  match c with
  | '{' => some .openBrace
  | '}' => some .closeBrace
  | '[' => some .openBracket
  | ']' => some .closeBracket
  | ',' => some .comma
  | ':' => some .colon
  | _ => none

/-- What a hexadecimal digit of either case stands for. -/
def hexValue? (c : Char) : Option Nat :=
  let n := c.toNat
  if '0' ≤ c ∧ c ≤ '9' then some (n - '0'.toNat)
  else if 'a' ≤ c ∧ c ≤ 'f' then some (n - 'a'.toNat + 10)
  else if 'A' ≤ c ∧ c ≤ 'F' then some (n - 'A'.toNat + 10)
  else none

/-- Four hexadecimal digits. -/
def unit? : List Char → Option (Nat × List Char)
  | a :: b :: c :: d :: rest => do
    let a ← hexValue? a
    let b ← hexValue? b
    let c ← hexValue? c
    let d ← hexValue? d
    some (((a * 16 + b) * 16 + c) * 16 + d, rest)
  | _ => none

/-- The character of a numbered escape: one unit, or two that form a surrogate pair. -/
def numberedEscape? (cs : List Char) : Option (Char × List Char) := do
  let (high, rest) ← unit? cs
  if high < 0xD800 ∨ 0xE000 ≤ high then some (Char.ofNat high, rest)
  else if 0xDC00 ≤ high then none
  else
    match rest with
    | '\\' :: 'u' :: rest => do
      let (low, rest) ← unit? rest
      if 0xDC00 ≤ low ∧ low < 0xE000 then
        some (Char.ofNat (0x10000 + (high - 0xD800) * 0x400 + (low - 0xDC00)), rest)
      else none
    | _ => none

/-- The character of an escape, from what stands after the backslash. -/
def escape? : List Char → Option (Char × List Char)
  | '"' :: rest => some ('"', rest)
  | '\\' :: rest => some ('\\', rest)
  | '/' :: rest => some ('/', rest)
  | 'b' :: rest => some (Char.ofNat 8, rest)
  | 'f' :: rest => some (Char.ofNat 12, rest)
  | 'n' :: rest => some ('\n', rest)
  | 'r' :: rest => some ('\r', rest)
  | 't' :: rest => some ('\t', rest)
  | 'u' :: rest => numberedEscape? rest
  | _ => none

theorem unit?_length {cs rest : List Char} {n : Nat} (h : unit? cs = some (n, rest)) :
    rest.length < cs.length := by
  match cs, h with
  | a :: b :: c :: d :: tail, h =>
    simp only [unit?, Option.bind_eq_bind, Option.bind_eq_some_iff, Option.some.injEq,
      Prod.mk.injEq] at h
    obtain ⟨_, _, _, _, _, _, _, _, _, rfl⟩ := h
    simp only [List.length_cons]
    omega

theorem numberedEscape?_length {cs rest : List Char} {c : Char}
    (h : numberedEscape? cs = some (c, rest)) : rest.length < cs.length := by
  simp only [numberedEscape?, Option.bind_eq_bind, Option.bind_eq_some_iff, Prod.exists] at h
  obtain ⟨high, middle, hUnit, h⟩ := h
  have hMiddle := unit?_length hUnit
  split at h
  · simp_all
  · split at h
    · simp at h
    · split at h
      · simp only [Option.bind_eq_some_iff, Prod.exists] at h
        obtain ⟨low, tail, hLow, h⟩ := h
        have hTail := unit?_length hLow
        split at h
        · simp only [Option.some.injEq, Prod.mk.injEq] at h
          obtain ⟨_, rfl⟩ := h
          simp only [List.length_cons] at hMiddle
          omega
        · simp at h
      · simp at h

theorem escape?_length {cs rest : List Char} {c : Char} (h : escape? cs = some (c, rest)) :
    rest.length < cs.length := by
  unfold escape? at h
  split at h <;> first
    | (simp only [Option.some.injEq, Prod.mk.injEq] at h
       obtain ⟨_, rfl⟩ := h
       exact Nat.lt_succ_self _)
    | (have hNumbered := numberedEscape?_length h
       exact Nat.lt_succ_of_lt hNumbered)
    | simp at h

/-- The characters of a string, from what stands after its opening quote, and what stands after its
closing quote. -/
def scanText? (cs : List Char) : Option (List Char × List Char) :=
  match cs with
  | [] => none
  | c :: rest =>
    if c = '"' then some ([], rest)
    else if c = '\\' then
      match hEscape : escape? rest with
      | some (e, tail) =>
        have := escape?_length hEscape
        (scanText? tail).map fun (content, tail) => (e :: content, tail)
      | none => none
    else if c.toNat < 0x20 then none
    else (scanText? rest).map fun (content, tail) => (c :: content, tail)
termination_by cs.length
decreasing_by all_goals simp only [List.length_cons]; omega

theorem scanText?_length {cs content rest : List Char}
    (h : scanText? cs = some (content, rest)) : rest.length < cs.length := by
  fun_induction scanText? cs generalizing content with
  | case1 => simp at h
  | case2 tail =>
    simp only [Option.some.injEq, Prod.mk.injEq] at h
    obtain ⟨_, rfl⟩ := h
    exact Nat.lt_succ_self _
  | case3 tail e after hEscape hLength hQuote ih =>
    simp only [Option.map_eq_some_iff, Prod.mk.injEq, Prod.exists] at h
    obtain ⟨_, _, hScan, _, rfl⟩ := h
    have := ih hScan
    simp only [List.length_cons]
    omega
  | case4 => simp at h
  | case5 => simp at h
  | case6 c tail hQuote hSlash hControl ih =>
    simp only [Option.map_eq_some_iff, Prod.mk.injEq, Prod.exists] at h
    obtain ⟨_, _, hScan, _, rfl⟩ := h
    have := ih hScan
    simp only [List.length_cons]
    omega

def isDigit (c : Char) : Bool := '0' ≤ c && c ≤ '9'

/-- The longest run of digits in front, at least one, and the rest. -/
def digits? (cs : List Char) : Option (List Char × List Char) :=
  let ds := cs.takeWhile isDigit
  if ds.isEmpty then none else some (ds, cs.dropWhile isDigit)

/-- The digits before the point: a lone zero, or digits that do not begin with one. -/
def whole? : List Char → Option (List Char × List Char)
  | '0' :: rest => some (['0'], rest)
  | cs => digits? cs

def fraction? : List Char → Option (Option (List Char) × List Char)
  | '.' :: rest => (digits? rest).map fun (ds, rest) => (some ds, rest)
  | cs => some (none, cs)

/-- The exponent, from what stands after the letter. -/
def exponentDigits? : List Char → Option ((Bool × List Char) × List Char)
  | '+' :: rest => (digits? rest).map fun (ds, rest) => ((false, ds), rest)
  | '-' :: rest => (digits? rest).map fun (ds, rest) => ((true, ds), rest)
  | cs => (digits? cs).map fun (ds, rest) => ((false, ds), rest)

def exponent? : List Char → Option (Option (Bool × List Char) × List Char)
  | 'e' :: rest => (exponentDigits? rest).map fun (e, rest) => (some e, rest)
  | 'E' :: rest => (exponentDigits? rest).map fun (e, rest) => (some e, rest)
  | cs => some (none, cs)

/-- The numeral in front, and the rest. -/
def numeral? (isNegative : Bool) (cs : List Char) : Option (Numeral × List Char) := do
  let (whole, rest) ← whole? cs
  let (fraction, rest) ← fraction? rest
  let (exponent, rest) ← exponent? rest
  some (⟨isNegative, whole, fraction, exponent⟩, rest)

theorem digits?_length {cs ds rest : List Char} (h : digits? cs = some (ds, rest)) :
    rest.length ≤ cs.length := by
  simp only [digits?] at h
  split at h
  · simp at h
  · simp only [Option.some.injEq, Prod.mk.injEq] at h
    obtain ⟨_, rfl⟩ := h
    exact (List.dropWhile_sublist _).length_le

theorem whole?_length {cs ds rest : List Char} (h : whole? cs = some (ds, rest)) :
    rest.length ≤ cs.length := by
  unfold whole? at h
  split at h
  · simp only [Option.some.injEq, Prod.mk.injEq] at h
    obtain ⟨_, rfl⟩ := h
    exact Nat.le_succ _
  · exact digits?_length h

theorem fraction?_length {cs rest : List Char} {ds : Option (List Char)}
    (h : fraction? cs = some (ds, rest)) : rest.length ≤ cs.length := by
  unfold fraction? at h
  split at h
  · simp only [Option.map_eq_some_iff, Prod.mk.injEq, Prod.exists] at h
    obtain ⟨_, _, hDigits, _, rfl⟩ := h
    exact Nat.le_succ_of_le (digits?_length hDigits)
  · simp only [Option.some.injEq, Prod.mk.injEq] at h
    obtain ⟨_, rfl⟩ := h
    exact Nat.le_refl _

theorem exponentDigits?_length {cs rest : List Char} {e : Bool × List Char}
    (h : exponentDigits? cs = some (e, rest)) : rest.length ≤ cs.length := by
  unfold exponentDigits? at h
  split at h <;> simp only [Option.map_eq_some_iff, Prod.mk.injEq, Prod.exists] at h <;>
    obtain ⟨_, _, hDigits, _, rfl⟩ := h
  · exact Nat.le_succ_of_le (digits?_length hDigits)
  · exact Nat.le_succ_of_le (digits?_length hDigits)
  · exact digits?_length hDigits

theorem exponent?_length {cs rest : List Char} {e : Option (Bool × List Char)}
    (h : exponent? cs = some (e, rest)) : rest.length ≤ cs.length := by
  unfold exponent? at h
  split at h
  · simp only [Option.map_eq_some_iff, Prod.mk.injEq, Prod.exists] at h
    obtain ⟨_, _, _, hDigits, _, rfl⟩ := h
    exact Nat.le_succ_of_le (exponentDigits?_length hDigits)
  · simp only [Option.map_eq_some_iff, Prod.mk.injEq, Prod.exists] at h
    obtain ⟨_, _, _, hDigits, _, rfl⟩ := h
    exact Nat.le_succ_of_le (exponentDigits?_length hDigits)
  · simp only [Option.some.injEq, Prod.mk.injEq] at h
    obtain ⟨_, rfl⟩ := h
    exact Nat.le_refl _

theorem numeral?_length {isNegative : Bool} {cs rest : List Char} {numeral : Numeral}
    (h : numeral? isNegative cs = some (numeral, rest)) : rest.length ≤ cs.length := by
  simp only [numeral?, Option.bind_eq_bind, Option.bind_eq_some_iff, Prod.exists,
    Option.some.injEq, Prod.mk.injEq] at h
  obtain ⟨_, _, hWhole, _, _, hFraction, _, _, hExponent, _, rfl⟩ := h
  exact Nat.le_trans (exponent?_length hExponent)
    (Nat.le_trans (fraction?_length hFraction) (whole?_length hWhole))

/-- What follows the given word. -/
def after? (word cs : List Char) : Option (List Char) :=
  if word.isPrefixOf cs then some (cs.drop word.length) else none

theorem after?_length {word cs rest : List Char} (h : after? word cs = some rest) :
    rest.length ≤ cs.length := by
  simp only [after?] at h
  split at h
  · simp only [Option.some.injEq] at h
    subst h
    simp
  · simp at h

/-- A token of more than one character that begins with `c`, and what follows it. -/
def lexeme? (c : Char) (rest : List Char) : Option (Token × List Char) :=
  if c = '"' then (scanText? rest).map fun (cs, rest) => (.text (String.ofList cs), rest)
  else if c = '-' then do
    let (numeral, rest) ← numeral? true rest
    some (.number (← numeral.value?), rest)
  else if isDigit c then do
    let (numeral, rest) ← numeral? false (c :: rest)
    some (.number (← numeral.value?), rest)
  else if c = 'n' then (after? ['u', 'l', 'l'] rest).map (Token.null, ·)
  else if c = 't' then (after? ['r', 'u', 'e'] rest).map (Token.bool true, ·)
  else if c = 'f' then (after? ['a', 'l', 's', 'e'] rest).map (Token.bool false, ·)
  else none

/-- A numeral has at least one character, so the rest is shorter than what it was cut from. -/
theorem whole?_length_lt {c : Char} {cs ds rest : List Char} (hDigit : isDigit c)
    (h : whole? (c :: cs) = some (ds, rest)) : rest.length ≤ cs.length := by
  unfold whole? at h
  split at h
  · next tail hCons =>
    obtain ⟨-, rfl⟩ := Prod.mk.inj (Option.some.inj h)
    exact Nat.le_of_eq (congrArg List.length (List.cons.inj hCons).2).symm
  · simp only [digits?] at h
    split at h
    · simp at h
    · simp only [Option.some.injEq, Prod.mk.injEq] at h
      obtain ⟨_, rfl⟩ := h
      rw [List.dropWhile_cons_of_pos hDigit]
      exact (List.dropWhile_sublist _).length_le

theorem lexeme?_length {c : Char} {rest tail : List Char} {t : Token}
    (h : lexeme? c rest = some (t, tail)) : tail.length ≤ rest.length := by
  unfold lexeme? at h
  split at h
  · simp only [Option.map_eq_some_iff, Prod.mk.injEq, Prod.exists] at h
    obtain ⟨_, _, hScan, _, rfl⟩ := h
    exact Nat.le_of_lt (scanText?_length hScan)
  split at h
  · simp only [Option.bind_eq_bind, Option.bind_eq_some_iff, Prod.exists, Option.some.injEq,
      Prod.mk.injEq] at h
    obtain ⟨_, _, hNumeral, _, _, _, rfl⟩ := h
    exact numeral?_length hNumeral
  split at h
  · next hDigit =>
    simp only [numeral?, Option.bind_eq_bind, Option.bind_eq_some_iff, Prod.exists,
      Option.some.injEq, Prod.mk.injEq] at h
    obtain ⟨_, _, ⟨_, _, hWhole, _, _, hFraction, _, _, hExponent, _, rfl⟩, _, _, _, rfl⟩ := h
    exact Nat.le_trans (exponent?_length hExponent)
      (Nat.le_trans (fraction?_length hFraction) (whole?_length_lt hDigit hWhole))
  repeat' split at h
  all_goals first
    | (simp only [Option.map_eq_some_iff, Prod.mk.injEq] at h
       obtain ⟨_, hAfter, _, rfl⟩ := h
       exact after?_length hAfter)
    | simp at h

/-- The tokens of a text. -/
def scan (cs : List Char) : Option (List Token) :=
  match cs with
  | [] => some []
  | c :: rest =>
    if isSpace c then scan rest
    else
      match punctuation? c with
      | some t => (scan rest).map (t :: ·)
      | none =>
        match hLexeme : lexeme? c rest with
        | some (t, tail) =>
          have := lexeme?_length hLexeme
          (scan tail).map (t :: ·)
        | none => none
termination_by cs.length
decreasing_by all_goals simp only [List.length_cons]; omega

end Token

end ChatConsole.Json
