import Switchboard.Wire.Utf8

/-!
# UTF-8 reads back what it wrote, and nothing else

`Utf8.encodeChar` and `Utf8.decodeChar` are written independently: the one divides a code point
into groups of six bits, the other knows which bytes may begin and continue a character. They agree
on every character, so a text is read back from its bytes. The bytes that the reader lets through
spell each character in one way: what it takes for a character are the bytes of that.

Results:

* `decodeChar_encodeChar`: the reader takes exactly the bytes of the character in front.
* `decode_encode`: a text is read back from its bytes.
* `eq_encodeChar_of_decodeChar`: whatever is taken for a character are its bytes.
* `decode_eq_ok_iff`: bytes are read as a text exactly if they are what is written for it.
-/

namespace Switchboard.Utf8

/-! ## Bytes given by numbers -/

section Bytes

variable {k : Nat} (h : k < 256)
include h

theorem ofNat_lt_iff (b : UInt8) : UInt8.ofNat k < b ↔ k < b.toNat := by
  rw [UInt8.lt_iff_toNat_lt, UInt8.toNat_ofNat_of_lt' h]

theorem ofNat_eq_iff (b : UInt8) : UInt8.ofNat k = b ↔ k = b.toNat := by
  rw [← UInt8.toNat_inj, UInt8.toNat_ofNat_of_lt' h]

theorem between_ofNat (lo hi : UInt8) :
    (decide (lo ≤ .ofNat k) && decide (.ofNat k ≤ hi)) = decide (lo.toNat ≤ k ∧ k ≤ hi.toNat) := by
  rw [Bool.decide_and]
  simp only [UInt8.le_iff_toNat_le, UInt8.toNat_ofNat_of_lt' h]

end Bytes

theorem isTail_ofNat {k : Nat} (h : k < 64) : isTail (.ofNat (0x80 + k)) = true := by
  have h8 : 0x80 + k < 256 := by omega
  rw [isTail, between_ofNat h8]
  exact decide_eq_true (show 0x80 ≤ 0x80 + k ∧ 0x80 + k ≤ 0xBF by omega)

theorem tailBits_ofNat {k : Nat} (h : k < 64) : tailBits (.ofNat (0x80 + k)) = k := by
  have h8 : 0x80 + k < 256 := by omega
  unfold tailBits
  rw [UInt8.toNat_ofNat_of_lt' h8, Nat.add_sub_cancel_left]

/-- After the first byte of a character of three comes its second: no shorter spelling, no
surrogate. -/
theorem isSecond_of_three {n : Nat} (h0 : 0x800 ≤ n) (h1 : n < 0x10000)
    (hs : n < 0xD800 ∨ 0xDFFF < n) :
    isSecond (.ofNat (0xE0 + n / 4096)) (.ofNat (0x80 + n / 64 % 64)) = true := by
  have ha : 0xE0 + n / 4096 < 256 := by omega
  have hb : 0x80 + n / 64 % 64 < 256 := by omega
  simp only [isSecond, ofNat_eq_iff ha, between_ofNat hb, UInt8.reduceToNat]
  split
  · exact decide_eq_true (by omega)
  split
  · exact decide_eq_true (by omega)
  split
  · omega
  split
  · omega
  · exact isTail_ofNat (by omega)

/-- After the first byte of a character of four comes its second: no shorter spelling, nothing
beyond the last code point. -/
theorem isSecond_of_four {n : Nat} (h0 : 0x10000 ≤ n) (h1 : n < 0x110000) :
    isSecond (.ofNat (0xF0 + n / 262144)) (.ofNat (0x80 + n / 4096 % 64)) = true := by
  have ha : 0xF0 + n / 262144 < 256 := by omega
  have hb : 0x80 + n / 4096 % 64 < 256 := by omega
  simp only [isSecond, ofNat_eq_iff ha, between_ofNat hb, UInt8.reduceToNat]
  split
  · omega
  split
  · omega
  split
  · exact decide_eq_true (by omega)
  split
  · exact decide_eq_true (by omega)
  · exact isTail_ofNat (by omega)

/-! ## One character -/

variable (rest : List UInt8)

theorem decodeChar_one {n : Nat} (h : n < 0x80) :
    decodeChar (.ofNat n) rest = .ok (Char.ofNat n, rest) := by
  have ha : n < 256 := by omega
  have hn : UInt8.ofNat n < 0x80 := (ofNat_lt_iff ha _).2 h
  unfold decodeChar
  rw [if_pos hn, UInt8.toNat_ofNat_of_lt' ha]

theorem decodeChar_two {n : Nat} (h0 : 0x80 ≤ n) (h1 : n < 0x800) :
    decodeChar (.ofNat (0xC0 + n / 64)) (.ofNat (0x80 + n % 64) :: rest) =
      .ok (Char.ofNat n, rest) := by
  have ha : 0xC0 + n / 64 < 256 := by omega
  have ht : n % 64 < 64 := by omega
  have hn : (0xC0 + n / 64 - 0xC0) * 64 + n % 64 = n := by omega
  have ha1 : ¬UInt8.ofNat (0xC0 + n / 64) < 0x80 := by
    rw [ofNat_lt_iff ha]
    exact Nat.not_lt.2 (show 0x80 ≤ 0xC0 + n / 64 by omega)
  have ha2 : (decide (0xC2 ≤ UInt8.ofNat (0xC0 + n / 64)) &&
      decide (UInt8.ofNat (0xC0 + n / 64) ≤ 0xDF)) = true := by
    rw [between_ofNat ha]
    exact decide_eq_true (show 0xC2 ≤ 0xC0 + n / 64 ∧ 0xC0 + n / 64 ≤ 0xDF by omega)
  unfold decodeChar
  simp only [if_neg ha1, ha2, isTail_ofNat ht, UInt8.toNat_ofNat_of_lt' ha,
    tailBits_ofNat ht, hn, if_true]

theorem decodeChar_three {n : Nat} (h0 : 0x800 ≤ n) (h1 : n < 0x10000)
    (hs : n < 0xD800 ∨ 0xDFFF < n) :
    decodeChar (.ofNat (0xE0 + n / 4096))
        (.ofNat (0x80 + n / 64 % 64) :: .ofNat (0x80 + n % 64) :: rest) =
      .ok (Char.ofNat n, rest) := by
  have ha : 0xE0 + n / 4096 < 256 := by omega
  have hb : n / 64 % 64 < 64 := by omega
  have ht : n % 64 < 64 := by omega
  have hn : (0xE0 + n / 4096 - 0xE0) * 4096 + n / 64 % 64 * 64 + n % 64 = n := by omega
  have ha1 : ¬UInt8.ofNat (0xE0 + n / 4096) < 0x80 := by
    rw [ofNat_lt_iff ha]
    exact Nat.not_lt.2 (show 0x80 ≤ 0xE0 + n / 4096 by omega)
  have ha2 : (decide (0xC2 ≤ UInt8.ofNat (0xE0 + n / 4096)) &&
      decide (UInt8.ofNat (0xE0 + n / 4096) ≤ 0xDF)) = false := by
    rw [between_ofNat ha]
    exact decide_eq_false (show ¬(0xC2 ≤ 0xE0 + n / 4096 ∧ 0xE0 + n / 4096 ≤ 0xDF) by omega)
  have ha3 : (decide (0xE0 ≤ UInt8.ofNat (0xE0 + n / 4096)) &&
      decide (UInt8.ofNat (0xE0 + n / 4096) ≤ 0xEF)) = true := by
    rw [between_ofNat ha]
    exact decide_eq_true (show 0xE0 ≤ 0xE0 + n / 4096 ∧ 0xE0 + n / 4096 ≤ 0xEF by omega)
  unfold decodeChar
  simp only [if_neg ha1, ha2, ha3, isSecond_of_three h0 h1 hs, isTail_ofNat ht,
    UInt8.toNat_ofNat_of_lt' ha, tailBits_ofNat hb, tailBits_ofNat ht, hn, Bool.not_true,
    Bool.false_eq_true, if_true, if_false]

theorem decodeChar_four {n : Nat} (h0 : 0x10000 ≤ n) (h1 : n < 0x110000) :
    decodeChar (.ofNat (0xF0 + n / 262144))
        (.ofNat (0x80 + n / 4096 % 64) :: .ofNat (0x80 + n / 64 % 64) :: .ofNat (0x80 + n % 64) ::
          rest) =
      .ok (Char.ofNat n, rest) := by
  have ha : 0xF0 + n / 262144 < 256 := by omega
  have hb : n / 4096 % 64 < 64 := by omega
  have hc : n / 64 % 64 < 64 := by omega
  have hd : n % 64 < 64 := by omega
  have hn : (0xF0 + n / 262144 - 0xF0) * 262144 + n / 4096 % 64 * 4096 + n / 64 % 64 * 64 +
      n % 64 = n := by omega
  have ha1 : ¬UInt8.ofNat (0xF0 + n / 262144) < 0x80 := by
    rw [ofNat_lt_iff ha]
    exact Nat.not_lt.2 (show 0x80 ≤ 0xF0 + n / 262144 by omega)
  have ha2 : (decide (0xC2 ≤ UInt8.ofNat (0xF0 + n / 262144)) &&
      decide (UInt8.ofNat (0xF0 + n / 262144) ≤ 0xDF)) = false := by
    rw [between_ofNat ha]
    exact decide_eq_false (show ¬(0xC2 ≤ 0xF0 + n / 262144 ∧ 0xF0 + n / 262144 ≤ 0xDF) by omega)
  have ha3 : (decide (0xE0 ≤ UInt8.ofNat (0xF0 + n / 262144)) &&
      decide (UInt8.ofNat (0xF0 + n / 262144) ≤ 0xEF)) = false := by
    rw [between_ofNat ha]
    exact decide_eq_false (show ¬(0xE0 ≤ 0xF0 + n / 262144 ∧ 0xF0 + n / 262144 ≤ 0xEF) by omega)
  have ha4 : (decide (0xF0 ≤ UInt8.ofNat (0xF0 + n / 262144)) &&
      decide (UInt8.ofNat (0xF0 + n / 262144) ≤ 0xF4)) = true := by
    rw [between_ofNat ha]
    exact decide_eq_true (show 0xF0 ≤ 0xF0 + n / 262144 ∧ 0xF0 + n / 262144 ≤ 0xF4 by omega)
  unfold decodeChar
  simp only [if_neg ha1, ha2, ha3, ha4, isSecond_of_four h0 h1,
    isTail_ofNat hc, isTail_ofNat hd, UInt8.toNat_ofNat_of_lt' ha, tailBits_ofNat hb,
    tailBits_ofNat hc, tailBits_ofNat hd, hn, Bool.not_true, Bool.false_eq_true, if_true, if_false]

/-- **The reader takes exactly the bytes of the character in front.** -/
theorem decodeChar_encodeChar (c : Char) :
    ∃ a bs, encodeChar c = a :: bs ∧ decodeChar a (bs ++ rest) = .ok (c, rest) := by
  have hc : Char.ofNat c.toNat = c := Char.ofNat_toNat c
  have hv : c.toNat < 0xD800 ∨ 0xDFFF < c.toNat ∧ c.toNat < 0x110000 := c.valid
  unfold encodeChar
  by_cases h1 : c.toNat < 0x80
  · refine ⟨_, [], if_pos h1, ?_⟩
    simpa [hc] using decodeChar_one rest h1
  by_cases h2 : c.toNat < 0x800
  · refine ⟨_, [.ofNat (0x80 + c.toNat % 64)], by rw [if_neg h1, if_pos h2], ?_⟩
    simpa only [hc, List.cons_append, List.nil_append] using
      decodeChar_two rest (Nat.le_of_not_lt h1) h2
  by_cases h3 : c.toNat < 0x10000
  · refine ⟨_, [.ofNat (0x80 + c.toNat / 64 % 64), .ofNat (0x80 + c.toNat % 64)],
      by rw [if_neg h1, if_neg h2, if_pos h3], ?_⟩
    simpa only [hc, List.cons_append, List.nil_append] using
      decodeChar_three rest (Nat.le_of_not_lt h2) h3 (by omega)
  · refine ⟨_, [.ofNat (0x80 + c.toNat / 4096 % 64), .ofNat (0x80 + c.toNat / 64 % 64),
      .ofNat (0x80 + c.toNat % 64)], by rw [if_neg h1, if_neg h2, if_neg h3], ?_⟩
    have h4 : c.toNat < 0x110000 := by omega
    simpa only [hc, List.cons_append, List.nil_append] using
      decodeChar_four rest (Nat.le_of_not_lt h3) h4

/-! ## Texts -/

theorem decodeFrom_encode (index : Nat) (cs : List Char) :
    decodeFrom index (encode cs) = .ok cs := by
  induction cs generalizing index with
  | nil => rw [encode, List.flatMap_nil, decodeFrom]
  | cons c cs ih =>
    obtain ⟨a, bs, he, hd⟩ := decodeChar_encodeChar (encode cs) c
    have hcs : encode (c :: cs) = a :: (bs ++ encode cs) := by
      rw [encode, List.flatMap_cons, he]
      rfl
    rw [hcs, decodeFrom]
    split
    · rename_i h
      rw [hd] at h
      cases h
    · rename_i h
      rw [hd] at h
      cases h
      rw [ih]
      rfl

/-- **A text is read back from its bytes.** -/
theorem decode_encode (cs : List Char) : decode (encode cs) = .ok cs := decodeFrom_encode 0 cs

/-! ## What is read was written -/

theorem toNat_ofNat {n : Nat} (h : n.isValidChar) : (Char.ofNat n).toNat = n := by
  unfold Char.ofNat
  rw [dif_pos h]
  rfl

theorem isTail_iff {b : UInt8} : isTail b = true ↔ 0x80 ≤ b.toNat ∧ b.toNat ≤ 0xBF := by
  unfold isTail
  rw [Bool.and_eq_true, decide_eq_true_eq, decide_eq_true_eq]
  exact Iff.rfl

/-- A second byte continues a character. After the first bytes 0xE0 and 0xF0 it keeps out spellings
that are too long, after 0xED surrogates, and after 0xF4 what is beyond the last code point. -/
theorem between_of_isSecond {a b : UInt8} (h : isSecond a b = true) :
    (0x80 ≤ b.toNat ∧ b.toNat ≤ 0xBF) ∧ (a.toNat = 0xE0 → 0xA0 ≤ b.toNat) ∧
      (a.toNat = 0xED → b.toNat ≤ 0x9F) ∧ (a.toNat = 0xF0 → 0x90 ≤ b.toNat) ∧
      (a.toNat = 0xF4 → b.toNat ≤ 0x8F) := by
  unfold isSecond at h
  simp only [← UInt8.toNat_inj, UInt8.reduceToNat, isTail, UInt8.le_iff_toNat_le] at h
  repeat' split at h
  all_goals
    rw [Bool.and_eq_true, decide_eq_true_eq, decide_eq_true_eq] at h
    omega

/-- The bytes of the character with a given code point. -/
theorem encodeChar_ofNat {n : Nat} (h : n.isValidChar) :
    encodeChar (Char.ofNat n) =
      if n < 0x80 then [.ofNat n]
      else if n < 0x800 then [.ofNat (0xC0 + n / 64), .ofNat (0x80 + n % 64)]
      else if n < 0x10000 then
        [.ofNat (0xE0 + n / 4096), .ofNat (0x80 + n / 64 % 64), .ofNat (0x80 + n % 64)]
      else
        [.ofNat (0xF0 + n / 262144), .ofNat (0x80 + n / 4096 % 64), .ofNat (0x80 + n / 64 % 64),
          .ofNat (0x80 + n % 64)] := by
  unfold encodeChar
  rw [toNat_ofNat h]

/-- A byte is given by its number. -/
theorem ofNat_of_eq {k : Nat} {b : UInt8} (h : k = b.toNat) : UInt8.ofNat k = b := by
  rw [h, UInt8.ofNat_toNat]

section Read

variable {a b c d : UInt8}

theorem encodeChar_read_one (ha : a.toNat < 0x80) : encodeChar (Char.ofNat a.toNat) = [a] := by
  rw [encodeChar_ofNat (.inl (by omega)), if_pos ha, UInt8.ofNat_toNat]

theorem encodeChar_read_two (ha : 0xC2 ≤ a.toNat ∧ a.toNat ≤ 0xDF) (hb : isTail b = true) :
    encodeChar (Char.ofNat ((a.toNat - 0xC0) * 64 + tailBits b)) = [a, b] := by
  rw [isTail_iff] at hb
  unfold tailBits
  rw [encodeChar_ofNat (.inl (by omega)), if_neg (by omega), if_pos (by omega),
    ofNat_of_eq (b := a) (by omega), ofNat_of_eq (b := b) (by omega)]

theorem encodeChar_read_three (ha : 0xE0 ≤ a.toNat ∧ a.toNat ≤ 0xEF) (hb : isSecond a b = true)
    (hc : isTail c = true) :
    encodeChar (Char.ofNat ((a.toNat - 0xE0) * 4096 + tailBits b * 64 + tailBits c)) =
      [a, b, c] := by
  obtain ⟨between, long, surrogate, -⟩ := between_of_isSecond hb
  rw [isTail_iff] at hc
  have valid :
      ((a.toNat - 0xE0) * 4096 + (b.toNat - 0x80) * 64 + (c.toNat - 0x80)).isValidChar := by
    unfold Nat.isValidChar
    omega
  unfold tailBits
  rw [encodeChar_ofNat valid, if_neg (by omega), if_neg (by omega), if_pos (by omega),
    ofNat_of_eq (b := a) (by omega), ofNat_of_eq (b := b) (by omega),
    ofNat_of_eq (b := c) (by omega)]

theorem encodeChar_read_four (ha : 0xF0 ≤ a.toNat ∧ a.toNat ≤ 0xF4) (hb : isSecond a b = true)
    (hc : isTail c = true) (hd : isTail d = true) :
    encodeChar (Char.ofNat ((a.toNat - 0xF0) * 262144 + tailBits b * 4096 + tailBits c * 64 +
      tailBits d)) = [a, b, c, d] := by
  obtain ⟨between, -, -, long, beyond⟩ := between_of_isSecond hb
  rw [isTail_iff] at hc hd
  have valid : ((a.toNat - 0xF0) * 262144 + (b.toNat - 0x80) * 4096 + (c.toNat - 0x80) * 64 +
      (d.toNat - 0x80)).isValidChar := by
    unfold Nat.isValidChar
    omega
  unfold tailBits
  rw [encodeChar_ofNat valid, if_neg (by omega), if_neg (by omega), if_neg (by omega),
    ofNat_of_eq (b := a) (by omega), ofNat_of_eq (b := b) (by omega),
    ofNat_of_eq (b := c) (by omega), ofNat_of_eq (b := d) (by omega)]

end Read

/-- Whatever the reader takes for a character are its bytes: one case for each number of them. -/
theorem eq_encodeChar_of_decodeChar {a : UInt8} {bs rest : List UInt8} {c : Char}
    (h : decodeChar a bs = .ok (c, rest)) : a :: bs = encodeChar c ++ rest := by
  unfold decodeChar at h
  simp only [UInt8.lt_iff_toNat_lt, UInt8.le_iff_toNat_le, Bool.and_eq_true, decide_eq_true_eq] at h
  split at h
  · next one =>
    cases h
    rw [encodeChar_read_one one]
    rfl
  split at h
  · next two =>
    split at h
    · cases h
    split at h
    · next hb =>
      obtain ⟨rfl, rfl⟩ := Prod.mk.inj (Except.ok.inj h)
      rw [encodeChar_read_two two hb]
      rfl
    · cases h
  split at h
  · next three =>
    split at h
    · cases h
    split at h
    · cases h
    next hb =>
    split at h
    · cases h
    split at h
    · next hc =>
      obtain ⟨rfl, rfl⟩ := Prod.mk.inj (Except.ok.inj h)
      rw [encodeChar_read_three three (by simpa using hb) hc]
      rfl
    · cases h
  split at h
  · next four =>
    split at h
    · cases h
    split at h
    · cases h
    next hb =>
    split at h
    · cases h
    split at h
    · cases h
    next hc =>
    split at h
    · cases h
    split at h
    · next hd =>
      obtain ⟨rfl, rfl⟩ := Prod.mk.inj (Except.ok.inj h)
      rw [encodeChar_read_four four (by simpa using hb) (by simpa using hc) hd]
      rfl
    · cases h
  · cases h

theorem eq_encode_of_decodeFrom {index : Nat} {bytes : List UInt8} {cs : List Char}
    (h : decodeFrom index bytes = .ok cs) : bytes = encode cs := by
  induction index, bytes using decodeFrom.induct generalizing cs with
  | case1 index =>
    rw [decodeFrom] at h
    cases h
    rfl
  | case2 index a rest flaw hchar =>
    rw [decodeFrom] at h
    split at h
    · cases h
    · next hread =>
      rw [hchar] at hread
      cases hread
  | case3 index a rest c rest' hchar ih =>
    rw [decodeFrom] at h
    split at h
    · cases h
    · next c' rest'' hread =>
      rw [hchar] at hread
      obtain ⟨rfl, rfl⟩ := Prod.mk.inj (Except.ok.inj hread)
      cases hrest : decodeFrom (index + c.utf8Size) rest' with
      | error fault =>
        rw [hrest] at h
        cases h
      | ok cs' =>
        rw [hrest] at h
        cases h
        rw [eq_encodeChar_of_decodeChar hchar, ih hrest]
        rfl

/-- **Bytes are read as a text exactly if they are what is written for it.** -/
theorem decode_eq_ok_iff {bytes : List UInt8} {cs : List Char} :
    decode bytes = .ok cs ↔ bytes = encode cs := by
  constructor
  · exact eq_encode_of_decodeFrom
  · rintro rfl
    exact decode_encode cs

end Switchboard.Utf8
