import TableMachine.Text.Utf8
import Mathlib.Algebra.GroupWithZero.Nat

/-!
# Reading UTF-8 back

`Text.encode` writes a text as its UTF-8 bytes and `Text.decode` reads bytes as UTF-8, refusing
overlong forms, surrogates and code points past U+10FFFF. Reading what was written gives the text
back:

> `Text.decode_encode`: `decode (encode s) = .ok s` for every text `s`.

The bytes of one character, read as numbers, are fixed by its code point `n` and its length: `n`
itself below U+0080, and otherwise a lead byte carrying the top bits of `n` followed by
continuation bytes `128 + (six bits of n)` (`encodeChar_one` to `encodeChar_four`). From these
the decoder's tests are arithmetic on `n`: the lead byte falls in the range of its length, the
second byte in the range its lead allows (this is where a character's validity, no surrogate and
nothing past U+10FFFF, is used), and the bits put back together are `n`
(`decodeFrom_encodeChar`). A text is then read character by character.

The same description of the bytes says that a byte below 128 in an encoding is an ASCII
character standing for itself (`toNat_of_mem_encodeChar`), so a text without a line feed has no
byte 10, and a text that does not end in a carriage return has no last byte 13.
-/

namespace TableMachine.Text

/-! ## Bytes as numbers -/

theorem or_two_pow_mul {b i : Nat} (hb : b < 2 ^ i) (a : Nat) :
    b ||| 2 ^ i * a = b + 2 ^ i * a := by
  rw [Nat.or_comm, ← Nat.two_pow_add_eq_or_of_lt hb, Nat.add_comm]

/-- Keeping the low `i` bits of a byte and setting bits above them adds the high bits. -/
theorem toNat_and_or (x m p : UInt8) (i a : Nat) (hm : m.toNat = 2 ^ i - 1)
    (hp : p.toNat = 2 ^ i * a) : (x &&& m ||| p).toNat = x.toNat % 2 ^ i + 2 ^ i * a := by
  rw [UInt8.toNat_or, UInt8.toNat_and, hm, hp, Nat.and_two_pow_sub_one_eq_mod]
  exact or_two_pow_mul (Nat.mod_lt _ (Nat.two_pow_pos i)) a

theorem toNat_and_low (x m : UInt8) (i : Nat) (hm : m.toNat = 2 ^ i - 1) :
    (x &&& m).toNat = x.toNat % 2 ^ i := by
  rw [UInt8.toNat_and, hm, Nat.and_two_pow_sub_one_eq_mod]

theorem toNat_shift_toUInt8 (v : UInt32) (k : Nat) (hk : k < 32) :
    (v >>> k.toUInt32).toUInt8.toNat = v.toNat / 2 ^ k % 256 := by
  rw [UInt32.toNat_toUInt8, UInt32.toNat_shiftRight, Nat.shiftRight_eq_div_pow]
  simp [Nat.mod_eq_of_lt hk]

theorem low6_eq (b : UInt8) : low6 b = b.toNat % 64 := toNat_and_low b 0x3F 6 rfl

theorem isContinuation_of_toNat {b : UInt8} {r : Nat} (h : b.toNat = r + 128) (hr : r < 64) :
    isContinuation b = true := by
  have key : ∀ r < 64, (r + 128) &&& 192 = 128 := by decide
  rw [isContinuation, beq_iff_eq, ← UInt8.toNat_inj, UInt8.toNat_and, h]
  exact key r hr

theorem ofNat_eq {c : Char} {n : Nat} (h : n = c.toNat) : Char.ofNat n = c := by
  rw [h, Char.ofNat_toNat]

/-- A code point is below the surrogates, or above them and at most U+10FFFF. -/
theorem toNat_valid (c : Char) : c.toNat < 0xD800 ∨ (0xDFFF < c.toNat ∧ c.toNat < 0x110000) := by
  simpa [UInt32.isValidChar, Nat.isValidChar, Char.toNat_val] using c.valid

/-! ## The bytes of one character -/

section Bytes

variable {c : Char}

theorem encodeChar_one (h : c.utf8Size = 1) :
    ∃ b0, String.utf8EncodeChar c = [b0] ∧ b0.toNat = c.toNat ∧ c.toNat < 128 := by
  have hn : c.toNat ≤ 127 := by
    simpa [UInt32.le_iff_toNat_le, Char.toNat_val] using Char.utf8Size_eq_one_iff.mp h
  refine ⟨_, String.utf8EncodeChar_eq_singleton h, ?_, by omega⟩
  rw [UInt32.toNat_toUInt8, Char.toNat_val]
  omega

theorem encodeChar_two (h : c.utf8Size = 2) :
    ∃ b0 b1, String.utf8EncodeChar c = [b0, b1] ∧ b0.toNat = c.toNat / 64 + 192 ∧
      b1.toNat = c.toNat % 64 + 128 ∧ 128 ≤ c.toNat ∧ c.toNat < 2048 := by
  obtain ⟨hlo, hhi⟩ := Char.utf8Size_eq_two_iff.mp h
  simp only [UInt32.lt_iff_toNat_lt, UInt32.le_iff_toNat_le, Char.toNat_val,
    UInt32.reduceToNat] at hlo hhi
  refine ⟨_, _, String.utf8EncodeChar_eq_cons_cons h, ?_, ?_, by omega, by omega⟩
  · rw [toNat_and_or _ _ _ 5 6 rfl rfl, show (6 : UInt32) = (6 : Nat).toUInt32 from rfl,
      toNat_shift_toUInt8 _ _ (by omega), Char.toNat_val]
    omega
  · rw [toNat_and_or _ _ _ 6 2 rfl rfl, UInt32.toNat_toUInt8, Char.toNat_val]
    omega

theorem encodeChar_three (h : c.utf8Size = 3) :
    ∃ b0 b1 b2, String.utf8EncodeChar c = [b0, b1, b2] ∧ b0.toNat = c.toNat / 4096 + 224 ∧
      b1.toNat = c.toNat / 64 % 64 + 128 ∧ b2.toNat = c.toNat % 64 + 128 ∧
      2048 ≤ c.toNat ∧ c.toNat < 65536 := by
  obtain ⟨hlo, hhi⟩ := Char.utf8Size_eq_three_iff.mp h
  simp only [UInt32.lt_iff_toNat_lt, UInt32.le_iff_toNat_le, Char.toNat_val,
    UInt32.reduceToNat] at hlo hhi
  refine ⟨_, _, _, String.utf8EncodeChar_eq_cons_cons_cons h, ?_, ?_, ?_, by omega, by omega⟩
  · rw [toNat_and_or _ _ _ 4 14 rfl rfl, show (12 : UInt32) = (12 : Nat).toUInt32 from rfl,
      toNat_shift_toUInt8 _ _ (by omega), Char.toNat_val]
    omega
  · rw [toNat_and_or _ _ _ 6 2 rfl rfl, show (6 : UInt32) = (6 : Nat).toUInt32 from rfl,
      toNat_shift_toUInt8 _ _ (by omega), Char.toNat_val]
    omega
  · rw [toNat_and_or _ _ _ 6 2 rfl rfl, UInt32.toNat_toUInt8, Char.toNat_val]
    omega

theorem encodeChar_four (h : c.utf8Size = 4) :
    ∃ b0 b1 b2 b3, String.utf8EncodeChar c = [b0, b1, b2, b3] ∧
      b0.toNat = c.toNat / 262144 + 240 ∧ b1.toNat = c.toNat / 4096 % 64 + 128 ∧
      b2.toNat = c.toNat / 64 % 64 + 128 ∧ b3.toNat = c.toNat % 64 + 128 ∧
      65536 ≤ c.toNat ∧ c.toNat < 0x110000 := by
  have hlo := Char.utf8Size_eq_four_iff.mp h
  simp only [UInt32.lt_iff_toNat_lt, Char.toNat_val, UInt32.reduceToNat] at hlo
  have hhi := toNat_valid c
  refine ⟨_, _, _, _, String.utf8EncodeChar_eq_cons_cons_cons_cons h, ?_, ?_, ?_, ?_, by omega,
    by omega⟩
  · rw [toNat_and_or _ _ _ 3 30 rfl rfl, show (18 : UInt32) = (18 : Nat).toUInt32 from rfl,
      toNat_shift_toUInt8 _ _ (by omega), Char.toNat_val]
    omega
  · rw [toNat_and_or _ _ _ 6 2 rfl rfl, show (12 : UInt32) = (12 : Nat).toUInt32 from rfl,
      toNat_shift_toUInt8 _ _ (by omega), Char.toNat_val]
    omega
  · rw [toNat_and_or _ _ _ 6 2 rfl rfl, show (6 : UInt32) = (6 : Nat).toUInt32 from rfl,
      toNat_shift_toUInt8 _ _ (by omega), Char.toNat_val]
    omega
  · rw [toNat_and_or _ _ _ 6 2 rfl rfl, UInt32.toNat_toUInt8, Char.toNat_val]
    omega

end Bytes

/-! ## Reading one character -/

/-- The second byte of a three-byte character is in the range its lead byte allows: above the
overlong forms after `E0`, below the surrogates after `ED`. -/
theorem secondOfThree_of_toNat {b0 b1 : UInt8} {n : Nat} (h0 : b0.toNat = n / 4096 + 224)
    (h1 : b1.toNat = n / 64 % 64 + 128) (hlo : 2048 ≤ n) (hhi : n < 65536)
    (hv : n < 0xD800 ∨ 0xDFFF < n) : secondOfThree b0 b1 = true := by
  unfold secondOfThree
  simp only [beq_iff_eq, ← UInt8.toNat_inj, h0, UInt8.le_iff_toNat_le, h1, UInt8.reduceToNat]
  split
  · simp only [decide_eq_true_eq]; omega
  · split
    · simp only [decide_eq_true_eq]; omega
    · simp only [decide_eq_true_eq]; omega

/-- The second byte of a four-byte character is in the range its lead byte allows: above the
overlong forms after `F0`, at most U+10FFFF after `F4`. -/
theorem secondOfFour_of_toNat {b0 b1 : UInt8} {n : Nat} (h0 : b0.toNat = n / 262144 + 240)
    (h1 : b1.toNat = n / 4096 % 64 + 128) (hlo : 65536 ≤ n) (hhi : n < 0x110000) :
    secondOfFour b0 b1 = true := by
  unfold secondOfFour
  simp only [beq_iff_eq, ← UInt8.toNat_inj, h0, UInt8.le_iff_toNat_le, h1, UInt8.reduceToNat]
  split
  · simp only [decide_eq_true_eq]; omega
  · split
    · simp only [decide_eq_true_eq]; omega
    · simp only [decide_eq_true_eq]; omega

/-- Reading the bytes of a character takes it, and goes on after them. -/
theorem decodeFrom_encodeChar (c : Char) (offset : Nat) (acc : List Char) (rest : List UInt8) :
    decodeFrom offset acc (String.utf8EncodeChar c ++ rest) =
      decodeFrom (offset + c.utf8Size) (c :: acc) rest := by
  rcases c.utf8Size_eq with h | h | h | h
  · -- one byte: the code point itself
    obtain ⟨b0, henc, h0, hn⟩ := encodeChar_one h
    have hlt : b0 < 0x80 := by rw [UInt8.lt_iff_toNat_lt, h0]; exact hn
    rw [henc, h, List.singleton_append, decodeFrom.eq_def]
    dsimp only
    rw [if_pos hlt, ofNat_eq h0]
  · -- a lead byte `C2`..`DF` and one continuation byte
    obtain ⟨b0, b1, henc, h0, h1, hlo, hhi⟩ := encodeChar_two h
    have hlead : ¬ b0 < 0x80 := by rw [UInt8.lt_iff_toNat_lt, h0]; simp
    have hrange : 0xC2 ≤ b0 ∧ b0 ≤ 0xDF := by
      simp only [UInt8.le_iff_toNat_le, h0, UInt8.reduceToNat]; omega
    have hchar : Char.ofNat ((b0 &&& 0x1F).toNat * 64 + low6 b1) = c := by
      refine ofNat_eq ?_
      rw [toNat_and_low _ _ 5 rfl, low6_eq, h0, h1]
      omega
    rw [henc, h, List.cons_append, List.singleton_append, decodeFrom.eq_def]
    dsimp only
    rw [if_neg hlead, if_pos hrange, if_pos (isContinuation_of_toNat h1 (by omega)), hchar]
  · -- a lead byte `E0`..`EF` and two continuation bytes
    obtain ⟨b0, b1, b2, henc, h0, h1, h2, hlo, hhi⟩ := encodeChar_three h
    have hv : c.toNat < 0xD800 ∨ 0xDFFF < c.toNat := (toNat_valid c).imp id (·.1)
    have hlead : ¬ b0 < 0x80 := by rw [UInt8.lt_iff_toNat_lt, h0]; simp
    have hnot2 : ¬ (0xC2 ≤ b0 ∧ b0 ≤ 0xDF) := by
      simp only [UInt8.le_iff_toNat_le, h0, UInt8.reduceToNat]; omega
    have hrange : 0xE0 ≤ b0 ∧ b0 ≤ 0xEF := by
      simp only [UInt8.le_iff_toNat_le, h0, UInt8.reduceToNat]; omega
    have hchar : Char.ofNat ((b0 &&& 0x0F).toNat * 4096 + low6 b1 * 64 + low6 b2) = c := by
      refine ofNat_eq ?_
      rw [toNat_and_low _ _ 4 rfl, low6_eq, low6_eq, h0, h1, h2]
      omega
    rw [henc, h, List.cons_append, List.cons_append, List.singleton_append, decodeFrom.eq_def]
    dsimp only
    rw [if_neg hlead, if_neg hnot2, if_pos hrange]
    simp only [secondOfThree_of_toNat h0 h1 hlo hhi hv, Bool.not_true, Bool.false_eq_true,
      if_false]
    rw [if_pos (isContinuation_of_toNat h2 (by omega)), hchar]
  · -- a lead byte `F0`..`F4` and three continuation bytes
    obtain ⟨b0, b1, b2, b3, henc, h0, h1, h2, h3, hlo, hhi⟩ := encodeChar_four h
    have hlead : ¬ b0 < 0x80 := by rw [UInt8.lt_iff_toNat_lt, h0]; simp
    have hnot2 : ¬ (0xC2 ≤ b0 ∧ b0 ≤ 0xDF) := by
      simp only [UInt8.le_iff_toNat_le, h0, UInt8.reduceToNat]; omega
    have hnot3 : ¬ (0xE0 ≤ b0 ∧ b0 ≤ 0xEF) := by
      simp only [UInt8.le_iff_toNat_le, h0, UInt8.reduceToNat]; omega
    have hrange : 0xF0 ≤ b0 ∧ b0 ≤ 0xF4 := by
      simp only [UInt8.le_iff_toNat_le, h0, UInt8.reduceToNat]; omega
    have hchar : Char.ofNat ((b0 &&& 0x07).toNat * 262144 + low6 b1 * 4096 + low6 b2 * 64
        + low6 b3) = c := by
      refine ofNat_eq ?_
      rw [toNat_and_low _ _ 3 rfl, low6_eq, low6_eq, low6_eq, h0, h1, h2, h3]
      omega
    rw [henc, h, List.cons_append, List.cons_append, List.cons_append, List.singleton_append,
      decodeFrom.eq_def]
    dsimp only
    rw [if_neg hlead, if_neg hnot2, if_neg hnot3, if_pos hrange]
    simp only [secondOfFour_of_toNat h0 h1 hlo hhi, isContinuation_of_toNat h2 (by omega),
      Bool.not_true, Bool.false_eq_true, if_false]
    rw [if_pos (isContinuation_of_toNat h3 (by omega)), hchar]

/-! ## Reading a text -/

theorem toList_loop (bs : ByteArray) (i : Nat) (r : List UInt8) :
    ByteArray.toList.loop bs i r = r.reverse ++ bs.data.toList.drop i := by
  fun_induction ByteArray.toList.loop bs i r with
  | case1 i r hlt ih =>
    -- one more byte moves from the array to the accumulator
    have hlen : i < bs.data.toList.length := by simpa using hlt
    have hget : bs.get! i = bs.data[i]! := by cases bs; rfl
    rw [ih, List.drop_eq_getElem_cons hlen, hget, getElem!_pos bs.data i hlt]
    simp
  | case2 i r hlt =>
    rw [List.drop_eq_nil_of_le (by simpa using Nat.le_of_not_lt hlt)]
    simp

/-- The bytes of a text are the bytes of its characters, in order. -/
theorem encode_eq (s : String) : encode s = s.toList.flatMap String.utf8EncodeChar := by
  rw [encode, ByteArray.toList, toList_loop, String.toUTF8_eq_toByteArray,
    ← String.utf8Encode_toList, List.utf8Encode, List.toList_data_toByteArray]
  simp

theorem encode_append (s t : String) : encode (s ++ t) = encode s ++ encode t := by
  simp [encode_eq, String.toList_append]

theorem decodeFrom_flatMap (cs : List Char) : ∀ (offset : Nat) (acc : List Char),
    decodeFrom offset acc (cs.flatMap String.utf8EncodeChar) =
      .ok (String.ofList (acc.reverse ++ cs)) := by
  induction cs with
  | nil => intro offset acc; simp [decodeFrom]
  | cons c cs ih =>
    intro offset acc
    rw [List.flatMap_cons, decodeFrom_encodeChar, ih]
    simp

/-- **Reading UTF-8 back.** Decoding the UTF-8 bytes of a text gives the text. -/
theorem decode_encode (s : String) : decode (encode s) = .ok s := by
  rw [decode, encode_eq, decodeFrom_flatMap]
  simp

/-! ## Bytes below 128 -/

/-- A byte below 128 in the encoding of a character is the character itself. -/
theorem toNat_of_mem_encodeChar {c : Char} {b : UInt8} (hb : b ∈ String.utf8EncodeChar c)
    (hlt : b.toNat < 128) : c.toNat = b.toNat := by
  rcases c.utf8Size_eq with h | h | h | h
  · obtain ⟨b0, henc, h0, -⟩ := encodeChar_one h
    rw [henc, List.mem_singleton] at hb
    rw [hb, h0]
  · -- every byte of a longer character is 128 or more
    obtain ⟨b0, b1, henc, h0, h1, -⟩ := encodeChar_two h
    rw [henc] at hb
    simp only [List.mem_cons, List.not_mem_nil, or_false] at hb
    rcases hb with rfl | rfl <;> omega
  · obtain ⟨b0, b1, b2, henc, h0, h1, h2, -⟩ := encodeChar_three h
    rw [henc] at hb
    simp only [List.mem_cons, List.not_mem_nil, or_false] at hb
    rcases hb with rfl | rfl | rfl <;> omega
  · obtain ⟨b0, b1, b2, b3, henc, h0, h1, h2, h3, -⟩ := encodeChar_four h
    rw [henc] at hb
    simp only [List.mem_cons, List.not_mem_nil, or_false] at hb
    rcases hb with rfl | rfl | rfl | rfl <;> omega

theorem eq_of_mem_encodeChar {c d : Char} (hd : d.toNat < 128)
    (hb : d.val.toUInt8 ∈ String.utf8EncodeChar c) : c = d := by
  have hdb : d.val.toUInt8.toNat = d.toNat := by
    rw [UInt32.toNat_toUInt8, Char.toNat_val]
    omega
  have hc := toNat_of_mem_encodeChar hb (by omega)
  rw [← Char.ofNat_toNat c, ← Char.ofNat_toNat d, hc, hdb]

/-- A text without an ASCII character has none of its byte: that byte encodes nothing else. -/
theorem ascii_not_mem_encode {s : String} {d : Char} (hd : d.toNat < 128) (h : d ∉ s.toList) :
    d.val.toUInt8 ∉ encode s := by
  rw [encode_eq, List.mem_flatMap]
  rintro ⟨c, hc, hb⟩
  exact h (eq_of_mem_encodeChar hd hb ▸ hc)

/-- A text without a line feed has no byte 10. -/
theorem lineFeed_not_mem_encode {s : String} (h : '\n' ∉ s.toList) : (10 : UInt8) ∉ encode s :=
  ascii_not_mem_encode (d := '\n') (by decide) h

/-- A text whose last character is not a carriage return has no last byte 13. -/
theorem getLast?_encode {s : String} (h : s.toList.getLast? ≠ some '\r') :
    (encode s).getLast? ≠ some 13 := by
  rw [encode_eq]
  rcases List.eq_nil_or_concat s.toList with hnil | ⟨init, c, hlast⟩
  · simp [hnil]
  · -- the last byte is the last byte of the last character
    rw [hlast, List.concat_eq_append, List.flatMap_append, List.flatMap_singleton,
      List.getLast?_append, List.getLast?_eq_some_getLast String.utf8EncodeChar_ne_nil, Option.some_or,
      ← List.getLast?_eq_some_getLast String.utf8EncodeChar_ne_nil]
    intro h13
    have hc : c = '\r' := eq_of_mem_encodeChar (by decide) (List.mem_of_getLast? h13)
    exact h (by rw [hlast, hc, List.concat_eq_append, List.getLast?_concat])

end TableMachine.Text
