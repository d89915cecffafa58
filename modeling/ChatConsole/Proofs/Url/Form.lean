import ChatConsole.Proofs.Text.Utf8
import ChatConsole.Url.Form

/-! # Reading a query back

A written query holds `&` between its pairs and `=` between name and value, and both nowhere else:
each byte of a name or value is written as itself, as `+` or as an escape. Reading therefore cuts a
written query where its parts were put together, and finds every part as it was. The steps go up
from the byte over the part and the pair to the query.
-/

namespace ChatConsole.Url

open ChatConsole.Text (Bytes Utf8.encode Utf8.decodeLossy Utf8.encodeChar Utf8.decodeLossy_encode)

/-! ## Bytes -/

theorem encode_ascii {c : Char} (h : c.toNat < 0x80) (cs : List Char) :
    Utf8.encode (c :: cs) = c.toNat.toUInt8 :: Utf8.encode cs := by
  rw [Utf8.encode, List.flatMap_cons]
  simp only [Utf8.encodeChar, if_pos h]
  rfl

theorem encode_append (cs ds : List Char) :
    Utf8.encode (cs ++ ds) = Utf8.encode cs ++ Utf8.encode ds :=
  List.flatMap_append

namespace Percent

/-- A digit of an escape: ASCII, read back, and none of `&`, `+` and `=`. -/
theorem hexDigit_spec {n : Nat} (h : n < 16) :
    (hexDigit n).toNat < 0x80 ∧ hexValue? (hexDigit n).toNat.toUInt8 = some n ∧
      (hexDigit n).toNat.toUInt8 ∉ ([38, 43, 61] : Bytes) := by
  revert n
  decide +kernel

theorem decode_cons {b : UInt8} (h : b ≠ 37) (rest : Bytes) :
    decode (b :: rest) = b :: decode rest := by
  match rest with
  | [] => rfl
  | [_] => rfl
  | _ :: _ :: _ => rw [decode, if_neg h]

theorem decode_escape {high low b : UInt8} (h : unescape? high low = some b) (rest : Bytes) :
    decode (37 :: high :: low :: rest) = b :: decode rest := by
  rw [decode, if_pos rfl, h]

/-- An escape is three bytes, and its digits give the byte back. -/
theorem encode_escape (b : UInt8) :
    ∃ high low, Utf8.encode (escape b) = [37, high, low] ∧ unescape? high low = some b ∧
      high ∉ ([38, 43, 61] : Bytes) ∧ low ∉ ([38, 43, 61] : Bytes) := by
  have hByte := b.toNat_lt
  obtain ⟨hHigh, hHighValue, hHighOther⟩ := hexDigit_spec (show b.toNat / 16 < 16 by omega)
  obtain ⟨hLow, hLowValue, hLowOther⟩ := hexDigit_spec (show b.toNat % 16 < 16 by omega)
  refine ⟨_, _, ?_, ?_, hHighOther, hLowOther⟩
  · rw [escape, encode_ascii (by decide), encode_ascii hHigh, encode_ascii hLow]
    rfl
  · have hValue : b.toNat / 16 * 16 + b.toNat % 16 = b.toNat := by omega
    simp only [unescape?, hHighValue, hLowValue, hValue]
    rw [Nat.toUInt8, UInt8.ofNat_toNat]

end Percent

namespace Form

theorem toNat_ofNat_byte (b : UInt8) : (Char.ofNat b.toNat).toNat = b.toNat := by
  have hValid : b.toNat.isValidChar := .inl (Nat.lt_trans b.toNat_lt (by decide))
  rw [Char.ofNat, dif_pos hValid]
  rfl

theorem isPlain_spec {b : UInt8} (hPlain : isPlain (Char.ofNat b.toNat)) :
    b ∉ ([37, 38, 43, 61] : Bytes) := by
  intro hSpecial
  simp only [List.mem_cons, List.not_mem_nil, or_false] at hSpecial
  rcases hSpecial with rfl | rfl | rfl | rfl <;> exact absurd hPlain (by decide)

/-- A byte is written as `+`, as itself or as its escape. -/
theorem encode_encodeByte (b : UInt8) :
    (b = 32 ∧ Utf8.encode (encodeByte b) = [43]) ∨
      (b ∉ ([37, 38, 43, 61] : Bytes) ∧ Utf8.encode (encodeByte b) = [b]) ∨
      ∃ high low, Utf8.encode (encodeByte b) = [37, high, low] ∧
        Percent.unescape? high low = some b ∧
        high ∉ ([38, 43, 61] : Bytes) ∧ low ∉ ([38, 43, 61] : Bytes) := by
  simp only [encodeByte]
  split
  · next h =>
    have hByte : b.toNat = 32 := by rw [← toNat_ofNat_byte b, h]; rfl
    exact .inl ⟨UInt8.toNat_inj.mp hByte, rfl⟩
  · split
    · next h =>
      simp only [Bool.and_eq_true, decide_eq_true_eq] at h
      refine .inr (.inl ⟨isPlain_spec h.2, ?_⟩)
      rw [encode_ascii (by rw [toNat_ofNat_byte]; exact h.1), toNat_ofNat_byte, Nat.toUInt8,
        UInt8.ofNat_toNat]
      rfl
    · exact .inr (.inr (Percent.encode_escape b))

/-! ## Parts -/

/-- The bytes of a part with its spaces. -/
def spaced (bytes : Bytes) : Bytes := bytes.map fun b => if b = 43 then 32 else b

theorem spaced_append (bytes rest : Bytes) : spaced (bytes ++ rest) = spaced bytes ++ spaced rest :=
  List.map_append

theorem decode_spaced_encodeByte (b : UInt8) (rest : Bytes) :
    Percent.decode (spaced (Utf8.encode (encodeByte b)) ++ rest) = b :: Percent.decode rest := by
  rcases encode_encodeByte b with ⟨rfl, hBytes⟩ | ⟨hOther, hBytes⟩ |
    ⟨high, low, hBytes, hBack, hHigh, hLow⟩
  · rw [hBytes]
    exact Percent.decode_cons (by decide) rest
  · simp only [List.mem_cons, List.not_mem_nil, or_false, not_or] at hOther
    obtain ⟨hPercent, -, hPlus, -⟩ := hOther
    rw [hBytes, spaced, List.map_singleton, if_neg hPlus]
    exact Percent.decode_cons hPercent rest
  · simp only [List.mem_cons, List.not_mem_nil, or_false, not_or] at hHigh hLow
    rw [hBytes, spaced, List.map_cons, List.map_cons, List.map_singleton, if_neg (by decide),
      if_neg hHigh.2.1, if_neg hLow.2.1]
    exact Percent.decode_escape hBack rest

theorem separator_notMem_encodeByte {separator : UInt8} (h : separator ∈ ([38, 61] : Bytes))
    (b : UInt8) : separator ∉ Utf8.encode (encodeByte b) := by
  rcases encode_encodeByte b with ⟨-, hBytes⟩ | ⟨hOther, hBytes⟩ |
    ⟨high, low, hBytes, -, hHigh, hLow⟩
  all_goals rw [hBytes]
  all_goals grind

theorem decode_spaced_encode (bytes : Bytes) :
    Percent.decode (spaced (Utf8.encode (bytes.flatMap encodeByte))) = bytes := by
  induction bytes with
  | nil => rfl
  | cons b bytes ih =>
    rw [List.flatMap_cons, encode_append, spaced_append, decode_spaced_encodeByte, ih]

theorem decodePart_encodePart (s : String) : decodePart (Utf8.encode (encodePart s)) = s := by
  change String.ofList (Utf8.decodeLossy (Percent.decode (spaced _))) = s
  rw [encodePart, decode_spaced_encode, Utf8.decodeLossy_encode, String.ofList_toList]

theorem separator_notMem_encodePart {separator : UInt8} (h : separator ∈ ([38, 61] : Bytes))
    (s : String) : separator ∉ Utf8.encode (encodePart s) := by
  rw [encodePart, Utf8.encode, List.flatMap_assoc]
  intro hMem
  obtain ⟨b, -, hMem⟩ := List.mem_flatMap.mp hMem
  exact separator_notMem_encodeByte h b hMem

/-! ## Pairs -/

variable (pair : String × String)

theorem encode_encodePair : Utf8.encode (encodePair pair) =
    Utf8.encode (encodePart pair.1) ++ 61 :: Utf8.encode (encodePart pair.2) := by
  rw [encodePair, encode_append, encode_ascii (by decide)]
  rfl

theorem splitPair_append {name : Bytes} (h : 61 ∉ name) (value : Bytes) :
    splitPair (name ++ 61 :: value) = (name, value) := by
  have hName : ∀ b ∈ name, (b != 61) = true := by
    intro b hMem
    exact bne_iff_ne.mpr fun hEq => h (hEq ▸ hMem)
  rw [splitPair, List.takeWhile_append_of_pos hName, List.dropWhile_append_of_pos hName]
  simp

theorem decodePair_encodePair : decodePair (Utf8.encode (encodePair pair)) = pair := by
  simp only [decodePair, encode_encodePair,
    splitPair_append (separator_notMem_encodePart (by decide) pair.1), decodePart_encodePart]

theorem ampersand_notMem_encodePair : 38 ∉ Utf8.encode (encodePair pair) := by
  rw [encode_encodePair, List.mem_append, List.mem_cons]
  rintro (hName | hEquals | hValue)
  · exact separator_notMem_encodePart (by decide) pair.1 hName
  · exact absurd hEquals (by decide)
  · exact separator_notMem_encodePart (by decide) pair.2 hValue

theorem encode_encodePair_ne_nil : Utf8.encode (encodePair pair) ≠ [] := by
  rw [encode_encodePair]
  exact List.append_ne_nil_of_right_ne_nil _ (List.cons_ne_nil _ _)

/-! ## Queries -/

theorem encode_joined (pieces : List (List Char)) :
    Utf8.encode (pieces.intersperse ['&']).flatten =
      ((pieces.map Utf8.encode).intersperse [38]).flatten := by
  induction pieces with
  | nil => rfl
  | cons piece pieces ih =>
    cases pieces with
    | nil => simp
    | cons next pieces =>
      simp only [List.map_cons, List.intersperse_cons_cons, List.flatten_cons,
        encode_append] at ih ⊢
      rw [ih]
      rfl

section

variable {separator : UInt8} {piece : Bytes} (h : separator ∉ piece)
include h

theorem split_of_notMem : split separator piece = [piece] := by
  induction piece with
  | nil => rfl
  | cons b piece ih =>
    obtain ⟨hFirst, hRest⟩ := List.ne_and_not_mem_of_not_mem_cons h
    rw [split, if_neg (Ne.symm hFirst), ih hRest]

theorem split_append (rest : Bytes) :
    split separator (piece ++ separator :: rest) = piece :: split separator rest := by
  induction piece with
  | nil => rw [List.nil_append, split, if_pos rfl]
  | cons b piece ih =>
    obtain ⟨hFirst, hRest⟩ := List.ne_and_not_mem_of_not_mem_cons h
    rw [List.cons_append, split, if_neg (Ne.symm hFirst), ih hRest]

end

/-- Pieces put together with a byte that none of them holds fall apart again. -/
theorem split_joined {separator : UInt8} {pieces : List Bytes} (hSome : pieces ≠ [])
    (h : ∀ piece ∈ pieces, separator ∉ piece) :
    split separator (pieces.intersperse [separator]).flatten = pieces := by
  induction pieces with
  | nil => exact absurd rfl hSome
  | cons piece pieces ih =>
    obtain ⟨hPiece, hPieces⟩ := List.forall_mem_cons.mp h
    cases pieces with
    | nil => simpa using split_of_notMem hPiece
    | cons next pieces =>
      have hRest := ih (List.cons_ne_nil _ _) hPieces
      rw [List.intersperse_cons_cons, List.flatten_cons, List.flatten_cons, List.singleton_append,
        split_append hPiece, hRest]

/-- **A written query lists its pairs.** Whatever the names and values hold, none of it is taken for
the beginning of another pair or value. -/
theorem decode_encode (pairs : Pairs) : decode (encode pairs) = pairs := by
  by_cases hNone : pairs = []
  · subst hNone
    rfl
  · have hNames : (pairs.map encodePair).map Utf8.encode =
        pairs.map fun pair => Utf8.encode (encodePair pair) := List.map_map
    have hSplit : split 38 (Utf8.encode (encode pairs).toList) =
        pairs.map fun pair => Utf8.encode (encodePair pair) := by
      rw [encode, String.toList_ofList, encode_joined, hNames]
      refine split_joined (by simpa using hNone) ?_
      exact List.forall_mem_map.mpr fun pair _ => ampersand_notMem_encodePair pair
    have hFilled : ∀ piece ∈ pairs.map fun pair => Utf8.encode (encodePair pair),
        (!piece.isEmpty) = true := by
      refine List.forall_mem_map.mpr fun pair _ => ?_
      simpa using encode_encodePair_ne_nil pair
    rw [decode, hSplit, List.filter_eq_self.mpr hFilled, List.map_map]
    exact (List.map_congr_left fun pair _ => decodePair_encodePair pair).trans (List.map_id' pairs)

end Form

end ChatConsole.Url
