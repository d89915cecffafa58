import ChatConsole.Text.Utf8

/-! # Reading UTF-8 back

The first byte of a character tells how many others follow and within which bounds the next one
lies, and the bytes of every character keep to that. So whatever comes after a written character,
reading finds the character and then the rest: texts that were written are read back as they were.
-/

namespace ChatConsole.Text.Utf8

theorem toNat_toUInt8 {n : Nat} (h : n < 0x100) : n.toUInt8.toNat = n :=
  UInt8.toNat_ofNat_of_lt' h

theorem continuation_cons {count acc low high : Nat} {b : UInt8} {rest : Bytes}
    (hLow : low ≤ b.toNat) (hHigh : b.toNat ≤ high) :
    continuation (count + 1) acc low high (b :: rest) =
      continuation count (acc * 0x40 + (b.toNat - 0x80)) 0x80 0xBF rest := by
  rw [continuation, if_pos ⟨hLow, hHigh⟩]

theorem step_of_lead {b : UInt8} {input rest : Bytes} {count bits low high n : Nat}
    (hLead : lead? b = some (count, bits, low, high))
    (hRest : continuation count bits low high input = (true, n, rest)) :
    step b input = (some (Char.ofNat n), rest) := by
  simp only [step, hLead, hRest]

/-! ## Characters of one to four bytes -/

section

variable {n : Nat} (rest : Bytes)

theorem step_one (h : n < 0x80) : step n.toUInt8 rest = (some (Char.ofNat n), rest) := by
  have hLead : lead? n.toUInt8 = some (0, n, 0, 0) := by
    simp only [lead?, toNat_toUInt8 (show n < 0x100 by omega), if_pos h]
  exact step_of_lead hLead rfl

theorem step_two (hLeast : 0x80 ≤ n) (hMost : n < 0x800) :
    step (0xC0 + n / 0x40).toUInt8 ((0x80 + n % 0x40).toUInt8 :: rest) =
      (some (Char.ofNat n), rest) := by
  have hFirst := toNat_toUInt8 (show 0xC0 + n / 0x40 < 0x100 by omega)
  have hSecond := toNat_toUInt8 (show 0x80 + n % 0x40 < 0x100 by omega)
  have hLead : lead? (0xC0 + n / 0x40).toUInt8 = some (1, n / 0x40, 0x80, 0xBF) := by
    simp only [lead?, hFirst]
    rw [if_neg (by omega), if_neg (by omega), if_pos (by omega), Nat.add_sub_cancel_left]
  refine step_of_lead hLead ?_
  have hValue : n / 0x40 * 0x40 + (0x80 + n % 0x40 - 0x80) = n := by omega
  rw [continuation_cons (by omega) (by omega), continuation, hSecond, hValue]

theorem step_three (hLeast : 0x800 ≤ n) (hMost : n < 0x10000)
    (hChar : n < 0xD800 ∨ 0xDFFF < n) :
    step (0xE0 + n / 0x1000).toUInt8
        ((0x80 + n / 0x40 % 0x40).toUInt8 :: (0x80 + n % 0x40).toUInt8 :: rest) =
      (some (Char.ofNat n), rest) := by
  have hFirst := toNat_toUInt8 (show 0xE0 + n / 0x1000 < 0x100 by omega)
  have hSecond := toNat_toUInt8 (show 0x80 + n / 0x40 % 0x40 < 0x100 by omega)
  have hThird := toNat_toUInt8 (show 0x80 + n % 0x40 < 0x100 by omega)
  have hLead : lead? (0xE0 + n / 0x1000).toUInt8 =
      some (2, n / 0x1000, if 0xE0 + n / 0x1000 = 0xE0 then 0xA0 else 0x80,
        if 0xE0 + n / 0x1000 = 0xED then 0x9F else 0xBF) := by
    simp only [lead?, hFirst]
    rw [if_neg (by omega), if_neg (by omega), if_neg (by omega), if_pos (by omega),
      Nat.add_sub_cancel_left]
  refine step_of_lead hLead ?_
  have hValue : (n / 0x1000 * 0x40 + (0x80 + n / 0x40 % 0x40 - 0x80)) * 0x40 +
      (0x80 + n % 0x40 - 0x80) = n := by omega
  -- the bounds of the second byte leave out short characters and surrogates
  rw [continuation_cons (by split <;> omega) (by split <;> omega),
    continuation_cons (by omega) (by omega), continuation, hSecond, hThird, hValue]

theorem step_four (hLeast : 0x10000 ≤ n) (hMost : n < 0x110000) :
    step (0xF0 + n / 0x40000).toUInt8
        ((0x80 + n / 0x1000 % 0x40).toUInt8 :: (0x80 + n / 0x40 % 0x40).toUInt8 ::
          (0x80 + n % 0x40).toUInt8 :: rest) =
      (some (Char.ofNat n), rest) := by
  have hFirst := toNat_toUInt8 (show 0xF0 + n / 0x40000 < 0x100 by omega)
  have hSecond := toNat_toUInt8 (show 0x80 + n / 0x1000 % 0x40 < 0x100 by omega)
  have hThird := toNat_toUInt8 (show 0x80 + n / 0x40 % 0x40 < 0x100 by omega)
  have hFourth := toNat_toUInt8 (show 0x80 + n % 0x40 < 0x100 by omega)
  have hLead : lead? (0xF0 + n / 0x40000).toUInt8 =
      some (3, n / 0x40000, if 0xF0 + n / 0x40000 = 0xF0 then 0x90 else 0x80,
        if 0xF0 + n / 0x40000 = 0xF4 then 0x8F else 0xBF) := by
    simp only [lead?, hFirst]
    rw [if_neg (by omega), if_neg (by omega), if_neg (by omega), if_neg (by omega),
      if_pos (by omega), Nat.add_sub_cancel_left]
  refine step_of_lead hLead ?_
  have hValue : ((n / 0x40000 * 0x40 + (0x80 + n / 0x1000 % 0x40 - 0x80)) * 0x40 +
      (0x80 + n / 0x40 % 0x40 - 0x80)) * 0x40 + (0x80 + n % 0x40 - 0x80) = n := by omega
  rw [continuation_cons (by split <;> omega) (by split <;> omega),
    continuation_cons (by omega) (by omega), continuation_cons (by omega) (by omega), continuation,
    hSecond, hThird, hFourth, hValue]

end

/-- Reading finds a written character, whatever comes after it. -/
theorem step_encodeChar (c : Char) (rest : Bytes) :
    ∃ b bs, encodeChar c = b :: bs ∧ step b (bs ++ rest) = (some c, rest) := by
  have hChar : c.toNat < 0xD800 ∨ 0xDFFF < c.toNat ∧ c.toNat < 0x110000 := c.valid
  have hBack : (some (Char.ofNat c.toNat), rest) = (some c, rest) := by rw [Char.ofNat_toNat]
  simp only [encodeChar]
  split
  · next h => exact ⟨_, _, rfl, (step_one rest h).trans hBack⟩
  · split
    · next hLeast h => exact ⟨_, _, rfl, (step_two rest (by omega) h).trans hBack⟩
    · split
      · next hLeast h =>
        exact ⟨_, _, rfl, (step_three rest (by omega) h (by omega)).trans hBack⟩
      · next hLeast => exact ⟨_, _, rfl, (step_four rest (by omega) (by omega)).trans hBack⟩

/-- **What was written is read back.** -/
theorem decodeLossy_encode (cs : List Char) : decodeLossy (encode cs) = cs := by
  induction cs with
  | nil => rw [encode, List.flatMap_nil, decodeLossy]
  | cons c cs ih =>
    obtain ⟨b, bs, hBytes, hStep⟩ := step_encodeChar c (encode cs)
    have hEncode : encode (c :: cs) = b :: (bs ++ encode cs) := by
      rw [encode, List.flatMap_cons, hBytes]
      rfl
    rw [hEncode, decodeLossy, hStep]
    simp only [Option.getD_some, ih]

end ChatConsole.Text.Utf8
