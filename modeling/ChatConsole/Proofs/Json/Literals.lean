import ChatConsole.Json.Token
import Mathlib.Data.List.TakeWhile

/-! # How strings and numerals are written

In which ways a character of a string may be written, and which texts are numerals, without a
scanner. The scanner finds a string or a numeral in front of a text just when the text begins with
one. A numeral has no mark at its end: what follows must not go on with it.
-/

namespace ChatConsole.Json.Token

/-! ## Strings -/

/-- Four hexadecimal digits and the number that they stand for. -/
inductive UnitText : List Char → Nat → Prop
  | mk {a b c d : Char} {i j k l : Nat} (ha : hexValue? a = some i) (hb : hexValue? b = some j)
      (hc : hexValue? c = some k) (hd : hexValue? d = some l) :
      UnitText [a, b, c, d] (((i * 16 + j) * 16 + k) * 16 + l)

/-- The ways to write a character by its number, after `\u`: one unit, or two for a character
beyond the first `2 ^ 16`. -/
inductive NumberText : Char → List Char → Prop
  | single {c : Char} {ds : List Char} (h : UnitText ds c.toNat) : NumberText c ds
  | pair {c : Char} {ds es : List Char} {high low : Nat} (hHigh : high < 0x400)
      (hLow : low < 0x400) (hs : UnitText ds (0xD800 + high)) (ls : UnitText es (0xDC00 + low))
      (h : c.toNat = 0x10000 + high * 0x400 + low) : NumberText c (ds ++ '\\' :: 'u' :: es)

/-- The letters of the short escapes and what they stand for. -/
def shortEscapes : List (Char × Char) :=
  [('"', '"'), ('\\', '\\'), ('/', '/'), ('b', Char.ofNat 8), ('f', Char.ofNat 12), ('n', '\n'),
    ('r', '\r'), ('t', '\t')]

/-- The ways to write a character inside a string. -/
inductive CharText : Char → List Char → Prop
  | plain {c : Char} (control : 0x20 ≤ c.toNat) (quote : c ≠ '"') (slash : c ≠ '\\') :
      CharText c [c]
  | short {letter c : Char} (mem : (letter, c) ∈ shortEscapes) : CharText c ['\\', letter]
  | number {c : Char} {w : List Char} (h : NumberText c w) : CharText c ('\\' :: 'u' :: w)

/-- The ways to write the characters of a string, without its quotes. -/
inductive ContentText : List Char → List Char → Prop
  | nil : ContentText [] []
  | cons {c : Char} {cs w ws : List Char} (head : CharText c w) (tail : ContentText cs ws) :
      ContentText (c :: cs) (w ++ ws)

theorem hexValue?_lt {c : Char} {n : Nat} (h : hexValue? c = some n) : n < 16 := by
  have hNat : c.toNat = c.val.toNat := rfl
  have hEnds : ('9' : Char).val.toNat = 57 ∧ ('f' : Char).val.toNat = 102 ∧
      ('F' : Char).val.toNat = 70 := by decide
  have hStarts : ('0' : Char).toNat = 48 ∧ ('a' : Char).toNat = 97 ∧ ('A' : Char).toNat = 65 := by
    decide
  simp only [hexValue?, Char.le_def, UInt32.le_iff_toNat_le] at h
  split_ifs at h with hDigit hSmall hBig <;> obtain rfl := Option.some.inj h <;> omega

theorem UnitText.lt {ds : List Char} {n : Nat} (h : UnitText ds n) : n < 0x10000 := by
  obtain ⟨ha, hb, hc, hd⟩ := h
  have hi := hexValue?_lt ha
  have hj := hexValue?_lt hb
  have hk := hexValue?_lt hc
  have hl := hexValue?_lt hd
  omega

theorem unit?_of_text {ds : List Char} {n : Nat} (h : UnitText ds n) (rest : List Char) :
    unit? (ds ++ rest) = some (n, rest) := by
  obtain ⟨ha, hb, hc, hd⟩ := h
  simp only [List.cons_append, List.nil_append, unit?, ha, hb, hc, hd]
  rfl

theorem text_of_unit? {cs rest : List Char} {n : Nat} (h : unit? cs = some (n, rest)) :
    ∃ ds, UnitText ds n ∧ cs = ds ++ rest := by
  match cs, h with
  | a :: b :: c :: d :: tail, h =>
    simp only [unit?, Option.bind_eq_bind, Option.bind_eq_some_iff, Option.some.injEq,
      Prod.mk.injEq] at h
    obtain ⟨i, hi, j, hj, k, hk, l, hl, rfl, rfl⟩ := h
    exact ⟨[a, b, c, d], .mk hi hj hk hl, rfl⟩

theorem toNat_ofNat {n : Nat} (h : n.isValidChar) : (Char.ofNat n).toNat = n := by
  rw [Char.ofNat, dif_pos h]
  rfl

theorem numberedEscape?_of_text {c : Char} {w : List Char} (h : NumberText c w)
    (rest : List Char) : numberedEscape? (w ++ rest) = some (c, rest) := by
  cases h with
  | single h =>
    have hScalar : c.toNat < 0xD800 ∨ 0xE000 ≤ c.toNat := by
      rcases c.valid with hLow | hHigh
      · exact .inl hLow
      · exact .inr hHigh.1
    simp only [numberedEscape?, unit?_of_text h, Option.bind_eq_bind, Option.bind_some,
      if_pos hScalar, Char.ofNat_toNat]
  | @pair ds es high low hHigh hLow hs ls h =>
    have hChar : Char.ofNat (0x10000 + (0xD800 + high - 0xD800) * 0x400 + (0xDC00 + low - 0xDC00)) =
        c := by
      rw [Nat.add_sub_cancel_left, Nat.add_sub_cancel_left, ← h, Char.ofNat_toNat]
    rw [List.append_assoc]
    simp only [numberedEscape?, unit?_of_text hs, List.cons_append, Option.bind_eq_bind,
      Option.bind_some, unit?_of_text ls]
    rw [if_neg (by omega), if_neg (by omega), if_pos (by omega), hChar]

theorem text_of_numberedEscape? {cs rest : List Char} {c : Char}
    (h : numberedEscape? cs = some (c, rest)) : ∃ w, NumberText c w ∧ cs = w ++ rest := by
  simp only [numberedEscape?, Option.bind_eq_bind, Option.bind_eq_some_iff, Prod.exists] at h
  obtain ⟨high, middle, hUnit, h⟩ := h
  obtain ⟨ds, hDigits, rfl⟩ := text_of_unit? hUnit
  split at h
  · next hScalar =>
    obtain ⟨rfl, rfl⟩ := Prod.mk.inj (Option.some.inj h)
    have hLt := hDigits.lt
    have hValid : high.isValidChar := by
      unfold Nat.isValidChar
      omega
    exact ⟨ds, .single ((toNat_ofNat hValid).symm ▸ hDigits), rfl⟩
  · split at h
    · cases h
    · split at h
      · next tail =>
        simp only [Option.bind_eq_some_iff, Prod.exists] at h
        obtain ⟨low, tail', hUnit', h⟩ := h
        obtain ⟨es, hLow, rfl⟩ := text_of_unit? hUnit'
        split at h
        · obtain ⟨rfl, rfl⟩ := Prod.mk.inj (Option.some.inj h)
          have hValid : (0x10000 + (high - 0xD800) * 0x400 + (low - 0xDC00)).isValidChar := by
            unfold Nat.isValidChar
            omega
          have hs : UnitText ds (0xD800 + (high - 0xD800)) := by
            rwa [Nat.add_sub_cancel' (by omega)]
          have ls : UnitText es (0xDC00 + (low - 0xDC00)) := by
            rwa [Nat.add_sub_cancel' (by omega)]
          exact ⟨ds ++ '\\' :: 'u' :: es,
            .pair (by omega) (by omega) hs ls (toNat_ofNat hValid), by simp⟩
        · cases h
      · cases h

/-- A backslash and what follows it. -/
theorem escape?_of_text {c : Char} {w : List Char} (h : CharText c ('\\' :: w))
    (rest : List Char) : escape? (w ++ rest) = some (c, rest) := by
  cases h with
  | plain control quote slash => exact absurd rfl slash
  | short mem =>
    simp only [shortEscapes, List.mem_cons, Prod.mk.injEq, List.not_mem_nil, or_false] at mem
    rcases mem with ⟨rfl, rfl⟩ | ⟨rfl, rfl⟩ | ⟨rfl, rfl⟩ | ⟨rfl, rfl⟩ | ⟨rfl, rfl⟩ | ⟨rfl, rfl⟩ |
      ⟨rfl, rfl⟩ | ⟨rfl, rfl⟩ <;> rfl
  | number h => exact numberedEscape?_of_text h rest

theorem text_of_escape? {cs rest : List Char} {c : Char} (h : escape? cs = some (c, rest)) :
    ∃ w, CharText c ('\\' :: w) ∧ cs = w ++ rest := by
  unfold escape? at h
  split at h
  case h_9 =>
    obtain ⟨w, hText, rfl⟩ := text_of_numberedEscape? h
    exact ⟨'u' :: w, .number hText, rfl⟩
  case h_10 => cases h
  all_goals
    obtain ⟨rfl, rfl⟩ := Prod.mk.inj (Option.some.inj h)
    exact ⟨[_], .short (by simp [shortEscapes]), rfl⟩

theorem scanText?_plain {c : Char} (control : 0x20 ≤ c.toNat) (quote : c ≠ '"') (slash : c ≠ '\\')
    {cs content rest : List Char} (h : scanText? cs = some (content, rest)) :
    scanText? (c :: cs) = some (c :: content, rest) := by
  rw [scanText?, if_neg quote, if_neg slash, if_neg (Nat.not_lt_of_ge control), h]
  rfl

theorem scanText?_escape {c : Char} {cs content tail rest : List Char}
    (hEscape : escape? cs = some (c, tail)) (h : scanText? tail = some (content, rest)) :
    scanText? ('\\' :: cs) = some (c :: content, rest) := by
  rw [scanText?, if_neg (by decide), if_pos rfl]
  split
  · next hFound =>
    obtain ⟨rfl, rfl⟩ := Prod.mk.inj (Option.some.inj (hEscape.symm.trans hFound))
    rw [h]
    rfl
  · next hNone => cases hEscape.symm.trans hNone

theorem scanText?_of_text {content w : List Char} (h : ContentText content w)
    (rest : List Char) : scanText? (w ++ '"' :: rest) = some (content, rest) := by
  induction h with
  | nil => rw [List.nil_append, scanText?, if_pos rfl]
  | @cons c cs w ws head tail ih =>
    rw [List.append_assoc]
    cases hHead : head with
    | plain control quote slash => exact scanText?_plain control quote slash ih
    | short mem => exact scanText?_escape (escape?_of_text head _) ih
    | number hNumber => exact scanText?_escape (escape?_of_text head _) ih

theorem text_of_scanText? {cs content rest : List Char} (h : scanText? cs = some (content, rest)) :
    ∃ w, ContentText content w ∧ cs = w ++ '"' :: rest := by
  fun_induction scanText? cs generalizing content with
  | case1 => cases h
  | case2 tail =>
    obtain ⟨rfl, rfl⟩ := Prod.mk.inj (Option.some.inj h)
    exact ⟨[], .nil, rfl⟩
  | case3 tail c after hEscape hLength hQuote ih =>
    obtain ⟨⟨content, rest⟩, hScan, hSome⟩ := Option.map_eq_some_iff.mp h
    obtain ⟨rfl, rfl⟩ := Prod.mk.inj hSome
    obtain ⟨w, hText, rfl⟩ := text_of_escape? hEscape
    obtain ⟨ws, hRest, rfl⟩ := ih hScan
    exact ⟨('\\' :: w) ++ ws, .cons hText hRest, by simp⟩
  | case4 => cases h
  | case5 => cases h
  | case6 c tail hQuote hSlash hControl ih =>
    obtain ⟨⟨content, rest⟩, hScan, hSome⟩ := Option.map_eq_some_iff.mp h
    obtain ⟨rfl, rfl⟩ := Prod.mk.inj hSome
    obtain ⟨ws, hRest, rfl⟩ := ih hScan
    exact ⟨[c] ++ ws, .cons (.plain (Nat.le_of_not_lt hControl) hQuote hSlash) hRest, rfl⟩

/-! ## Numerals -/

/-- One or more digits. -/
def IsDigits (ds : List Char) : Prop := ds ≠ [] ∧ ∀ d ∈ ds, isDigit d

/-- The digits before the point: only a lone zero begins with one. -/
def IsWhole (ds : List Char) : Prop := IsDigits ds ∧ (ds.head? = some '0' → ds = ['0'])

/-- What may follow the digits before the point. -/
inductive FractionText : Option (List Char) → List Char → Prop
  | none : FractionText none []
  | some {ds : List Char} (h : IsDigits ds) : FractionText (some ds) ('.' :: ds)

/-- Whether the sign of an exponent is a minus. -/
inductive SignText : Bool → List Char → Prop
  | none : SignText false []
  | plus : SignText false ['+']
  | minus : SignText true ['-']

/-- What may follow both. -/
inductive ExponentText : Option (Bool × List Char) → List Char → Prop
  | none : ExponentText none []
  | some {letter : Char} {isNegative : Bool} {sign ds : List Char}
      (hLetter : letter = 'e' ∨ letter = 'E') (hSign : SignText isNegative sign)
      (h : IsDigits ds) : ExponentText (some (isNegative, ds)) (letter :: (sign ++ ds))

/-- The ways to write a numeral, without its sign. -/
inductive NumeralText : Numeral → List Char → Prop
  | mk {isNegative : Bool} {whole fs es : List Char} {fraction : Option (List Char)}
      {exponent : Option (Bool × List Char)} (hWhole : IsWhole whole)
      (hFraction : FractionText fraction fs) (hExponent : ExponentText exponent es) :
      NumeralText ⟨isNegative, whole, fraction, exponent⟩ (whole ++ fs ++ es)

/-- Whether a text is over or goes on with none of these characters. -/
def StopsAt (p : Char → Bool) (cs : List Char) : Prop := ∀ c ∈ cs.head?, p c = false

theorem digits?_of_isDigits {ds rest : List Char} (h : IsDigits ds) (hStop : StopsAt isDigit rest) :
    digits? (ds ++ rest) = some (ds, rest) := by
  have hTake : (ds ++ rest).takeWhile isDigit = ds := by
    rw [List.takeWhile_append_of_pos h.2]
    cases rest with
    | nil => exact List.append_nil ds
    | cons c rest =>
      rw [List.takeWhile_cons_of_neg (by simp [hStop c rfl]), List.append_nil]
  have hDrop : (ds ++ rest).dropWhile isDigit = rest := by
    rw [List.dropWhile_append_of_pos h.2]
    cases rest with
    | nil => rfl
    | cons c rest => exact List.dropWhile_cons_of_neg (by simp [hStop c rfl])
  simp only [digits?, hTake, hDrop, List.isEmpty_iff, if_neg h.1]

theorem isDigits_of_digits? {cs ds rest : List Char} (h : digits? cs = some (ds, rest)) :
    IsDigits ds ∧ cs = ds ++ rest := by
  simp only [digits?] at h
  split at h
  · cases h
  · next hSome =>
    obtain ⟨rfl, rfl⟩ := Prod.mk.inj (Option.some.inj h)
    refine ⟨⟨by simpa using hSome, fun d hMem => List.mem_takeWhile_imp hMem⟩, ?_⟩
    exact List.takeWhile_append_dropWhile.symm

theorem whole?_of_isWhole {ds rest : List Char} (h : IsWhole ds) (hStop : StopsAt isDigit rest) :
    whole? (ds ++ rest) = some (ds, rest) := by
  unfold whole?
  split
  · next tail hZero =>
    obtain ⟨d, ds, rfl⟩ := List.exists_cons_of_ne_nil h.1.1
    obtain ⟨rfl, rfl⟩ := List.cons.inj hZero
    obtain ⟨-, rfl⟩ := List.cons.inj (h.2 rfl)
    rfl
  · exact digits?_of_isDigits h.1 hStop

theorem isWhole_of_whole? {cs ds rest : List Char} (h : whole? cs = some (ds, rest)) :
    IsWhole ds ∧ cs = ds ++ rest := by
  unfold whole? at h
  split at h
  · obtain ⟨rfl, rfl⟩ := Prod.mk.inj (Option.some.inj h)
    exact ⟨⟨⟨by simp, by simp [isDigit]⟩, fun _ => rfl⟩, rfl⟩
  · next hOther =>
    obtain ⟨hDigits, rfl⟩ := isDigits_of_digits? h
    refine ⟨⟨hDigits, fun hHead => ?_⟩, rfl⟩
    obtain ⟨d, ds, rfl⟩ := List.exists_cons_of_ne_nil hDigits.1
    obtain rfl := Option.some.inj hHead
    exact absurd rfl (hOther (ds ++ rest))

theorem fraction?_of_text {fraction : Option (List Char)} {fs rest : List Char}
    (h : FractionText fraction fs) (hStop : StopsAt (fun c => isDigit c || c == '.') rest) :
    fraction? (fs ++ rest) = some (fraction, rest) := by
  have hDigit : StopsAt isDigit rest := fun c hc => (Bool.or_eq_false_iff.mp (hStop c hc)).1
  cases h with
  | none =>
    unfold fraction?
    split
    · next tail hPoint => cases hStop '.' (by rw [← List.nil_append rest, hPoint]; rfl)
    · rfl
  | some h =>
    rw [List.cons_append, fraction?, digits?_of_isDigits h hDigit]
    rfl

theorem text_of_fraction? {cs rest : List Char} {fraction : Option (List Char)}
    (h : fraction? cs = some (fraction, rest)) :
    ∃ fs, FractionText fraction fs ∧ cs = fs ++ rest := by
  unfold fraction? at h
  split at h
  · obtain ⟨⟨ds, tail⟩, hDigits, hSome⟩ := Option.map_eq_some_iff.mp h
    obtain ⟨rfl, rfl⟩ := Prod.mk.inj hSome
    obtain ⟨hText, rfl⟩ := isDigits_of_digits? hDigits
    exact ⟨'.' :: ds, .some hText, rfl⟩
  · obtain ⟨rfl, rfl⟩ := Prod.mk.inj (Option.some.inj h)
    exact ⟨[], .none, rfl⟩

theorem exponentDigits?_of_text {isNegative : Bool} {sign ds rest : List Char}
    (hSign : SignText isNegative sign) (h : IsDigits ds) (hStop : StopsAt isDigit rest) :
    exponentDigits? (sign ++ ds ++ rest) = some ((isNegative, ds), rest) := by
  have hDigits := digits?_of_isDigits h hStop
  cases hSign with
  | plus =>
    show (digits? (ds ++ rest)).map _ = _
    rw [hDigits]
    rfl
  | minus =>
    show (digits? (ds ++ rest)).map _ = _
    rw [hDigits]
    rfl
  | none =>
    obtain ⟨d, ds, rfl⟩ := List.exists_cons_of_ne_nil h.1
    have hDigit := h.2 d List.mem_cons_self
    rw [List.nil_append]
    unfold exponentDigits?
    split
    · next hPlus =>
      obtain ⟨rfl, -⟩ := List.cons.inj hPlus
      exact absurd hDigit (by decide)
    · next hMinus =>
      obtain ⟨rfl, -⟩ := List.cons.inj hMinus
      exact absurd hDigit (by decide)
    · rw [hDigits]
      rfl

theorem text_of_exponentDigits? {cs ds rest : List Char} {isNegative : Bool}
    (h : exponentDigits? cs = some ((isNegative, ds), rest)) :
    ∃ sign, SignText isNegative sign ∧ IsDigits ds ∧ cs = sign ++ ds ++ rest := by
  unfold exponentDigits? at h
  split at h <;> obtain ⟨⟨ds, tail⟩, hDigits, hSome⟩ := Option.map_eq_some_iff.mp h <;>
    obtain ⟨hNumber, rfl⟩ := Prod.mk.inj hSome <;>
    obtain ⟨rfl, rfl⟩ := Prod.mk.inj hNumber <;>
    obtain ⟨hText, rfl⟩ := isDigits_of_digits? hDigits
  · exact ⟨['+'], .plus, hText, rfl⟩
  · exact ⟨['-'], .minus, hText, rfl⟩
  · exact ⟨[], .none, hText, rfl⟩

theorem exponent?_of_text {exponent : Option (Bool × List Char)} {es rest : List Char}
    (h : ExponentText exponent es) (hDigit : StopsAt isDigit rest)
    (hLetter : StopsAt (fun c => c == 'e' || c == 'E') rest) :
    exponent? (es ++ rest) = some (exponent, rest) := by
  cases h with
  | none =>
    rw [List.nil_append]
    unfold exponent?
    split
    · cases hLetter 'e' rfl
    · cases hLetter 'E' rfl
    · rfl
  | some hMark hSign h =>
    have hRest := exponentDigits?_of_text hSign h hDigit
    rcases hMark with rfl | rfl <;> rw [List.cons_append, exponent?, hRest] <;> rfl

theorem text_of_exponent? {cs rest : List Char} {exponent : Option (Bool × List Char)}
    (h : exponent? cs = some (exponent, rest)) :
    ∃ es, ExponentText exponent es ∧ cs = es ++ rest := by
  have hSome : ∀ {letter : Char} {tail : List Char}, letter = 'e' ∨ letter = 'E' →
      (exponentDigits? tail).map (fun e => (some e.1, e.2)) = some (exponent, rest) →
      ∃ es, ExponentText exponent es ∧ letter :: tail = es ++ rest := by
    intro letter tail hLetter h
    obtain ⟨⟨⟨isNegative, ds⟩, tail⟩, hDigits, hSome⟩ := Option.map_eq_some_iff.mp h
    obtain ⟨rfl, rfl⟩ := Prod.mk.inj hSome
    obtain ⟨sign, hSign, hText, rfl⟩ := text_of_exponentDigits? hDigits
    exact ⟨_, .some hLetter hSign hText, rfl⟩
  unfold exponent? at h
  split at h
  · exact hSome (.inl rfl) h
  · exact hSome (.inr rfl) h
  · obtain ⟨rfl, rfl⟩ := Prod.mk.inj (Option.some.inj h)
    exact ⟨[], .none, rfl⟩

/-- A character that could go on a numeral. -/
def isNumeralChar (c : Char) : Bool := isDigit c || c == '.' || c == 'e' || c == 'E'

theorem StopsAt.mono {p q : Char → Bool} (hImp : ∀ c, p c = false → q c = false) {cs : List Char}
    (h : StopsAt p cs) : StopsAt q cs := fun c hc => hImp c (h c hc)

theorem StopsAt.exponent_append {p : Char → Bool} (he : p 'e' = false) (hE : p 'E' = false)
    {exponent : Option (Bool × List Char)} {es rest : List Char} (hText : ExponentText exponent es)
    (h : StopsAt p rest) : StopsAt p (es ++ rest) := by
  cases hText with
  | none => exact h
  | some hLetter hSign hDigits =>
    rintro c hc
    obtain rfl := Option.some.inj hc
    rcases hLetter with rfl | rfl
    · exact he
    · exact hE

theorem StopsAt.fraction_append {p : Char → Bool} (hPoint : p '.' = false)
    {fraction : Option (List Char)} {fs rest : List Char} (hText : FractionText fraction fs)
    (h : StopsAt p rest) : StopsAt p (fs ++ rest) := by
  cases hText with
  | none => exact h
  | some hDigits =>
    rintro c hc
    obtain rfl := Option.some.inj hc
    exact hPoint

theorem numeral?_of_text {numeral : Numeral} {cs rest : List Char} (h : NumeralText numeral cs)
    (hEnd : StopsAt isNumeralChar rest) :
    numeral? numeral.isNegative (cs ++ rest) = some (numeral, rest) := by
  obtain @⟨isNegative, whole, fs, es, fraction, exponent, hWhole, hFraction, hExponent⟩ := h
  have hPointless : StopsAt (fun c => isDigit c || c == '.') rest :=
    hEnd.mono fun c hc => by
      simp only [isNumeralChar, Bool.or_eq_false_iff] at hc ⊢
      exact hc.1.1
  have hDigit : StopsAt isDigit rest := hPointless.mono fun c hc => (Bool.or_eq_false_iff.mp hc).1
  have hLetter : StopsAt (fun c => c == 'e' || c == 'E') rest := hEnd.mono fun c hc => by
    simp only [isNumeralChar, Bool.or_eq_false_iff] at hc ⊢
    exact ⟨hc.1.2, hc.2⟩
  have hAfterFraction := hPointless.exponent_append rfl rfl hExponent
  have hAfterWhole := (hDigit.exponent_append rfl rfl hExponent).fraction_append rfl hFraction
  simp only [List.append_assoc, numeral?, whole?_of_isWhole hWhole hAfterWhole,
    fraction?_of_text hFraction hAfterFraction, exponent?_of_text hExponent hDigit hLetter,
    Option.bind_eq_bind, Option.bind_some]

theorem text_of_numeral? {isNegative : Bool} {cs rest : List Char} {numeral : Numeral}
    (h : numeral? isNegative cs = some (numeral, rest)) :
    ∃ w, NumeralText numeral w ∧ numeral.isNegative = isNegative ∧ cs = w ++ rest := by
  simp only [numeral?, Option.bind_eq_bind, Option.bind_eq_some_iff, Prod.exists,
    Option.some.injEq, Prod.mk.injEq] at h
  obtain ⟨whole, tail, hWhole, fraction, tail', hFraction, exponent, tail'', hExponent, rfl, rfl⟩ :=
    h
  obtain ⟨hIsWhole, rfl⟩ := isWhole_of_whole? hWhole
  obtain ⟨fs, hFractionText, rfl⟩ := text_of_fraction? hFraction
  obtain ⟨es, hExponentText, rfl⟩ := text_of_exponent? hExponent
  exact ⟨_, .mk hIsWhole hFractionText hExponentText, rfl, by simp⟩

end ChatConsole.Json.Token
