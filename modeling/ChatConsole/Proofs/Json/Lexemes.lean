import ChatConsole.Proofs.Json.Literals
import Mathlib.Data.List.Chain

/-! # How tokens are written

Which texts spell a sequence of tokens, with blanks between them at will. What the scanner finds is
spelled that way. Conversely it finds what is spelled as long as of two neighbouring tokens one is a
mark, since only then the end of a numeral is where it seems.
-/

namespace ChatConsole.Json.Token

/-! ## Tokens -/

/-- Whether a token is one of the six punctuation marks. -/
def isMark : Token → Bool
  | .openBrace | .closeBrace | .openBracket | .closeBracket | .comma | .colon => true
  | _ => false

/-- The ways to write a token. -/
inductive Lexeme : List Char → Token → Prop
  | mark {c : Char} {t : Token} (h : punctuation? c = some t) : Lexeme [c] t
  | null : Lexeme ['n', 'u', 'l', 'l'] .null
  | yes : Lexeme ['t', 'r', 'u', 'e'] (.bool true)
  | no : Lexeme ['f', 'a', 'l', 's', 'e'] (.bool false)
  | number {numeral : Numeral} {w : List Char} {n : Number} (h : NumeralText numeral w)
      (hValue : numeral.value? = some n) :
      Lexeme ((if numeral.isNegative then ['-'] else []) ++ w) (.number n)
  | text {content w : List Char} (h : ContentText content w) :
      Lexeme ('"' :: (w ++ ['"'])) (.text (String.ofList content))

/-- The texts that spell a sequence of tokens. -/
inductive Spelled : List Char → List Token → Prop
  | nil : Spelled [] []
  | blank {c : Char} {cs : List Char} {ts : List Token} (h : isSpace c) (rest : Spelled cs ts) :
      Spelled (c :: cs) ts
  | lexeme {w cs : List Char} {t : Token} {ts : List Token} (h : Lexeme w t)
      (rest : Spelled cs ts) : Spelled (w ++ cs) (t :: ts)

theorem Spelled.append {cs ds : List Char} {ts us : List Token} (h : Spelled cs ts)
    (h' : Spelled ds us) : Spelled (cs ++ ds) (ts ++ us) := by
  induction h with
  | nil => exact h'
  | blank hSpace rest ih => exact .blank hSpace ih
  | lexeme hLexeme rest ih =>
    rw [List.append_assoc]
    exact .lexeme hLexeme ih

theorem Spelled.blanks {cs : List Char} (h : ∀ c ∈ cs, isSpace c) : Spelled cs [] := by
  induction cs with
  | nil => exact .nil
  | cons c cs ih =>
    exact .blank (h c List.mem_cons_self) (ih fun d hd => h d (List.mem_cons_of_mem c hd))

theorem Spelled.mark {c : Char} {cs : List Char} {t : Token} {ts : List Token}
    (h : punctuation? c = some t) (rest : Spelled cs ts) : Spelled (c :: cs) (t :: ts) :=
  .lexeme (.mark h) rest

theorem Lexeme.spelled {w : List Char} {t : Token} (h : Lexeme w t) : Spelled w [t] := by
  have hSpelled := Spelled.lexeme h .nil
  rwa [List.append_nil] at hSpelled

/-! ## What the scanner finds is spelled -/

theorem eq_append_of_after? {word cs rest : List Char} (h : after? word cs = some rest) :
    cs = word ++ rest := by
  unfold after? at h
  split at h
  · next hPrefix =>
    obtain ⟨tail, rfl⟩ := List.isPrefixOf_iff_prefix.mp hPrefix
    rw [List.drop_left] at h
    rw [Option.some.inj h]
  · cases h

theorem lexeme_of_numeral? {isNegative : Bool} {cs rest : List Char} {numeral : Numeral}
    {n : Number} (h : numeral? isNegative cs = some (numeral, rest))
    (hValue : numeral.value? = some n) :
    ∃ w, Lexeme ((if isNegative then ['-'] else []) ++ w) (.number n) ∧ cs = w ++ rest := by
  obtain ⟨w, hText, rfl, rfl⟩ := text_of_numeral? h
  exact ⟨w, .number hText hValue, rfl⟩

theorem lexeme_of_lexeme? {c : Char} {cs rest : List Char} {t : Token}
    (h : lexeme? c cs = some (t, rest)) : ∃ w, Lexeme w t ∧ c :: cs = w ++ rest := by
  unfold lexeme? at h
  split at h
  · next hQuote =>
    obtain ⟨⟨content, tail⟩, hScan, hSome⟩ := Option.map_eq_some_iff.mp h
    obtain ⟨rfl, rfl⟩ := Prod.mk.inj hSome
    obtain ⟨w, hText, rfl⟩ := text_of_scanText? hScan
    exact ⟨_, .text hText, by simp [hQuote]⟩
  split at h
  · next hMinus =>
    simp only [Option.bind_eq_bind, Option.bind_eq_some_iff, Prod.exists, Option.some.injEq,
      Prod.mk.injEq] at h
    obtain ⟨numeral, tail, hNumeral, n, hValue, rfl, rfl⟩ := h
    obtain ⟨w, hLexeme, rfl⟩ := lexeme_of_numeral? hNumeral hValue
    exact ⟨_, hLexeme, by simp [hMinus]⟩
  split at h
  · simp only [Option.bind_eq_bind, Option.bind_eq_some_iff, Prod.exists, Option.some.injEq,
      Prod.mk.injEq] at h
    obtain ⟨numeral, tail, hNumeral, n, hValue, rfl, rfl⟩ := h
    exact lexeme_of_numeral? hNumeral hValue
  have hWord : ∀ {word : List Char} {t' : Token}, Lexeme (c :: word) t' →
      (after? word cs).map (t', ·) = some (t, rest) → ∃ w, Lexeme w t ∧ c :: cs = w ++ rest := by
    intro word t' hLexeme h
    obtain ⟨tail, hAfter, hSome⟩ := Option.map_eq_some_iff.mp h
    obtain ⟨rfl, rfl⟩ := Prod.mk.inj hSome
    exact ⟨_, hLexeme, congrArg (c :: ·) (eq_append_of_after? hAfter)⟩
  split at h
  · next hFirst => exact hWord (hFirst ▸ .null) h
  split at h
  · next hFirst => exact hWord (hFirst ▸ .yes) h
  split at h
  · next hFirst => exact hWord (hFirst ▸ .no) h
  · cases h

theorem spelled_of_scan {cs : List Char} {ts : List Token} (h : scan cs = some ts) :
    Spelled cs ts := by
  fun_induction scan cs generalizing ts with
  | case1 =>
    obtain rfl := Option.some.inj h
    exact .nil
  | case2 c rest hSpace ih => exact .blank hSpace (ih h)
  | case3 c rest hSpace t hMark ih =>
    obtain ⟨ts, hRest, rfl⟩ := Option.map_eq_some_iff.mp h
    exact .lexeme (.mark hMark) (ih hRest)
  | case4 c rest hSpace hMark t tail hLexeme hLength ih =>
    obtain ⟨ts, hRest, rfl⟩ := Option.map_eq_some_iff.mp h
    obtain ⟨w, hText, hSplit⟩ := lexeme_of_lexeme? hLexeme
    rw [hSplit]
    exact .lexeme hText (ih hRest)
  | case5 => cases h

/-! ## What is spelled is found -/

/-- Of two neighbours one is a mark. -/
def Apart (ts : List Token) : Prop := ts.IsChain fun t u => t.isMark ∨ u.isMark

/-- A text that is over or goes on with a blank or a mark. -/
def Breaks (cs : List Char) : Prop := ∀ c ∈ cs.head?, isSpace c ∨ (punctuation? c).isSome

theorem Breaks.stopsAt {cs : List Char} (h : Breaks cs) : StopsAt isNumeralChar cs := by
  intro c hc
  rcases h c hc with hSpace | hMark
  · simp only [isSpace, Bool.or_eq_true, beq_iff_eq] at hSpace
    rcases hSpace with ((rfl | rfl) | rfl) | rfl <;> rfl
  · unfold punctuation? at hMark
    split at hMark <;> first | rfl | cases hMark

theorem isMark_of_punctuation? {c : Char} {t : Token} (h : punctuation? c = some t) :
    t.isMark := by
  unfold punctuation? at h
  split at h <;> first | cases h; rfl | cases h

theorem isSpace_of_punctuation? {c : Char} {t : Token} (h : punctuation? c = some t) :
    isSpace c = false := by
  unfold punctuation? at h
  split at h <;> first | rfl | cases h

theorem Spelled.breaks {cs : List Char} {ts : List Token} (h : Spelled cs ts)
    (hMark : ∀ t ∈ ts.head?, t.isMark) : Breaks cs := by
  cases h with
  | nil => exact fun c hc => nomatch hc
  | blank hSpace rest =>
    rintro c hc
    obtain rfl := Option.some.inj hc
    exact .inl hSpace
  | lexeme hLexeme rest =>
    cases hLexeme with
    | mark hFirst =>
      rintro c hc
      obtain rfl := Option.some.inj hc
      exact .inr (hFirst ▸ rfl)
    | _ => cases hMark _ rfl

theorem after?_append (word rest : List Char) : after? word (word ++ rest) = some rest := by
  rw [after?, if_pos (List.isPrefixOf_iff_prefix.mpr (List.prefix_append word rest)),
    List.drop_left]

theorem NumeralText.exists_cons {numeral : Numeral} {w : List Char} (h : NumeralText numeral w) :
    ∃ d ds, w = d :: ds ∧ isDigit d := by
  obtain ⟨⟨⟨hSome, hDigits⟩, -⟩, -, -⟩ := h
  obtain ⟨d, ds, rfl⟩ := List.exists_cons_of_ne_nil hSome
  exact ⟨d, _, rfl, hDigits d List.mem_cons_self⟩

/-- What begins a numeral begins no other token. -/
theorem of_isDigit {c : Char} (h : isDigit c) :
    isSpace c = false ∧ punctuation? c = none ∧ c ≠ '"' ∧ c ≠ '-' := by
  refine ⟨?_, ?_, ?_, ?_⟩
  · rw [Bool.eq_false_iff]
    intro hSpace
    simp only [isSpace, Bool.or_eq_true, beq_iff_eq] at hSpace
    rcases hSpace with ((rfl | rfl) | rfl) | rfl <;> exact absurd h (by decide)
  · unfold punctuation?
    split <;> first | rfl | exact absurd h (by decide)
  all_goals
    rintro rfl
    exact absurd h (by decide)

theorem scan_of_punctuation? {c : Char} {t : Token} (h : punctuation? c = some t)
    (cs : List Char) : scan (c :: cs) = (scan cs).map (t :: ·) := by
  rw [scan, if_neg (by simp [isSpace_of_punctuation? h])]
  split
  · next hOther =>
    obtain rfl := Option.some.inj (h.symm.trans hOther)
    rfl
  · next hNone => cases h.symm.trans hNone

theorem scan_of_lexeme? {c : Char} {rest cs : List Char} {t : Token} (hSpace : isSpace c = false)
    (hNone : punctuation? c = none) (h : lexeme? c rest = some (t, cs)) :
    scan (c :: rest) = (scan cs).map (t :: ·) := by
  rw [scan, if_neg (by simp [hSpace])]
  split
  · next hSome => cases hNone.symm.trans hSome
  · split
    · next hOther =>
      obtain ⟨rfl, rfl⟩ := Prod.mk.inj (Option.some.inj (h.symm.trans hOther))
      rfl
    · next hOther => cases h.symm.trans hOther

/-- A token of more than one character, followed by what breaks it off. -/
theorem scan_lexeme {w cs : List Char} {t : Token} (h : Lexeme w t) (hMark : t.isMark = false)
    (hBreaks : Breaks cs) : scan (w ++ cs) = (scan cs).map (t :: ·) := by
  cases h with
  | mark hSome => cases (isMark_of_punctuation? hSome).symm.trans hMark
  | null =>
    exact scan_of_lexeme? rfl rfl (congrArg (Option.map _) (after?_append ['u', 'l', 'l'] cs))
  | yes =>
    exact scan_of_lexeme? rfl rfl (congrArg (Option.map _) (after?_append ['r', 'u', 'e'] cs))
  | no =>
    exact scan_of_lexeme? rfl rfl (congrArg (Option.map _) (after?_append ['a', 'l', 's', 'e'] cs))
  | text hText =>
    rw [List.cons_append, List.append_assoc]
    refine scan_of_lexeme? rfl rfl ?_
    rw [lexeme?, if_pos rfl, List.singleton_append, scanText?_of_text hText]
    rfl
  | @number numeral w n hText hValue =>
    have hNumeral := numeral?_of_text hText hBreaks.stopsAt
    rw [List.append_assoc]
    cases hSign : numeral.isNegative with
    | true =>
      refine @scan_of_lexeme? '-' _ _ _ rfl rfl ?_
      rw [hSign] at hNumeral
      simp [lexeme?, hNumeral, hValue]
    | false =>
      rw [hSign] at hNumeral
      obtain ⟨d, ds, rfl, hDigit⟩ := hText.exists_cons
      obtain ⟨hSpace, hNone, hQuote, hMinus⟩ := of_isDigit hDigit
      refine scan_of_lexeme? hSpace hNone ?_
      rw [List.cons_append] at hNumeral
      simp [lexeme?, hQuote, hMinus, hDigit, hNumeral, hValue]

theorem scan_of_spelled {cs : List Char} {ts : List Token} (h : Spelled cs ts) (hApart : Apart ts) :
    scan cs = some ts := by
  induction h with
  | nil => rw [scan]
  | blank hSpace rest ih => rw [scan, if_pos hSpace, ih hApart]
  | @lexeme w cs t ts hLexeme rest ih =>
    have hRest := ih hApart.tail
    cases hMark : t.isMark with
    | true =>
      cases hLexeme with
      | mark hSome =>
        rw [List.singleton_append, scan_of_punctuation? hSome, hRest]
        rfl
      | _ => cases hMark
    | false =>
      have hNext : ∀ u ∈ ts.head?, u.isMark := by
        intro u hu
        cases ts with
        | nil => cases hu
        | cons v ts =>
          obtain rfl := Option.some.inj hu
          exact (List.isChain_cons_cons.mp hApart).1.resolve_left (by simp [hMark])
      rw [scan_lexeme hLexeme hMark (rest.breaks hNext), hRest]
      rfl

end ChatConsole.Json.Token
