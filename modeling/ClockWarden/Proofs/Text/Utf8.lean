import ClockWarden.Text.Utf8

/-! Reading what was written as UTF-8. A scan that stands between two characters takes the bytes of one
and stands behind it (`foldl_feed_utf8EncodeChar`), so every text is read back from its bytes
(`decode?_encode`). -/

namespace ClockWarden.Utf8

@[simp] theorem encode_append (first second : String) :
    encode (first ++ second) = encode first ++ encode second := by
  rw [encode, String.toList_append, List.flatMap_append]
  rfl

theorem encode_ofList (text : List Char) :
    encode (String.ofList text) = text.flatMap String.utf8EncodeChar := by
  rw [encode, String.toList_ofList]

theorem toNat_ofNat_of_lt {n : Nat} (h : n < 256) : (UInt8.ofNat n).toNat = n :=
  UInt8.toNat_ofNat_of_lt' h

theorem ofNat_ne {n : Nat} (hn : n < 256) {b : UInt8} (h : n ≠ b.toNat) : UInt8.ofNat n ≠ b := by
  rintro rfl
  exact h (toNat_ofNat_of_lt hn).symm

theorem utf8EncodeChar_of_lt {c : Char} (h : c.toNat < 0x80) :
    String.utf8EncodeChar c = [UInt8.ofNat c.toNat] := by
  have hsmall : c.val.toNat ≤ 0x7F := Nat.le_of_lt_succ h
  simp only [String.utf8EncodeChar, hsmall, if_true]
  rfl

/-- A byte of a character is the number of the character, or lies beyond those that are characters by
themselves. -/
theorem toNat_of_mem {b : UInt8} {c : Char} (h : b ∈ String.utf8EncodeChar c) :
    b.toNat = c.toNat ∨ 0x80 ≤ b.toNat := by
  have hbeyond (n : Nat) (hlow : 0x80 ≤ n) (hhigh : n < 256) (hbyte : b = UInt8.ofNat n) :
      0x80 ≤ b.toNat := by
    rw [hbyte, toNat_ofNat_of_lt hhigh]
    exact hlow
  simp only [String.utf8EncodeChar] at h
  split at h
  · refine Or.inl ?_
    rw [List.mem_singleton.mp h, toNat_ofNat_of_lt (by omega)]
    rfl
  · refine Or.inr ?_
    split at h
    · simp only [List.mem_cons, List.not_mem_nil, or_false] at h
      rcases h with h | h <;> exact hbeyond _ (by omega) (by omega) h
    · split at h
      · simp only [List.mem_cons, List.not_mem_nil, or_false] at h
        rcases h with h | h | h <;> exact hbeyond _ (by omega) (by omega) h
      · simp only [List.mem_cons, List.not_mem_nil, or_false] at h
        rcases h with h | h | h | h <;> exact hbeyond _ (by omega) (by omega) h

/-- No byte of a character but NUL is zero. -/
theorem eq_nul_of_zero_mem {c : Char} (h : 0 ∈ String.utf8EncodeChar c) : c = '\x00' := by
  have hvalue : c.toNat = 0 := by
    rcases toNat_of_mem h with hbyte | hbyte
    · exact hbyte.symm
    · exact absurd hbyte (by decide)
  exact Char.ext (UInt32.toNat_inj.mp hvalue)

/-- A text without NUL has no zero among its bytes. -/
theorem zero_notMem_encode {text : String} (h : '\x00' ∉ text.toList) : 0 ∉ encode text := by
  intro hmem
  obtain ⟨c, hc, hzero⟩ := List.mem_flatMap.mp hmem
  obtain rfl := eq_nul_of_zero_mem hzero
  exact h hc

/-- A text has no more characters than bytes. -/
theorem length_le_encode (text : String) : text.toList.length ≤ (encode text).length := by
  rw [encode]
  induction text.toList with
  | nil => exact Nat.le_refl 0
  | cons c rest ih =>
      have hchar : 1 ≤ (String.utf8EncodeChar c).length := by
        rw [String.length_utf8EncodeChar]
        exact c.utf8Size_pos
      rw [List.flatMap_cons, List.length_append, List.length_cons]
      omega

namespace Scan

variable (found : List Piece)

/-- A byte of the range that is awaited goes on with the character under way. -/
theorem feed_of_within {p : Pending} {n : Nat} (hbyte : n < 256) (hlow : p.low.toNat ≤ n)
    (hhigh : n ≤ p.high.toNat) :
    feed ⟨some p, found⟩ (UInt8.ofNat n) =
      match p.more with
      | 0 => ⟨none, .char (Char.ofNat (p.bits * 64 + (n - 0x80))) :: found⟩
      | more + 1 =>
        ⟨some ⟨UInt8.ofNat n :: p.read, p.bits * 64 + (n - 0x80), 0x80, 0xBF, more⟩, found⟩ := by
  have hwithin : p.low ≤ UInt8.ofNat n ∧ UInt8.ofNat n ≤ p.high := by
    rw [UInt8.le_iff_toNat_le, UInt8.le_iff_toNat_le, toNat_ofNat_of_lt hbyte]
    exact ⟨hlow, hhigh⟩
  have hfeed : feed ⟨some p, found⟩ (UInt8.ofNat n) = _ := if_pos hwithin
  simp only [toNat_ofNat_of_lt hbyte] at hfeed
  exact hfeed

theorem start_one {n : Nat} (h : n < 0x80) :
    start found (UInt8.ofNat n) = ⟨none, .char (Char.ofNat n) :: found⟩ := by
  have hbyte := toNat_ofNat_of_lt (show n < 256 by omega)
  simp only [start, UInt8.lt_iff_toNat_lt, hbyte, UInt8.reduceToNat]
  rw [if_pos h]

theorem start_two {n : Nat} (hlow : 0xC2 ≤ n) (hhigh : n < 0xE0) :
    start found (UInt8.ofNat n) = ⟨some ⟨[UInt8.ofNat n], n - 0xC0, 0x80, 0xBF, 0⟩, found⟩ := by
  have hbyte := toNat_ofNat_of_lt (show n < 256 by omega)
  simp only [start, UInt8.lt_iff_toNat_lt, hbyte, UInt8.reduceToNat]
  rw [if_neg (by omega), if_neg (by omega), if_pos hhigh]

/-- The first byte of a character of three bytes leaves as second bytes those that spell no shorter
character and no surrogate. -/
theorem start_three {n : Nat} (hlow : 0xE0 ≤ n) (hhigh : n < 0xF0) :
    start found (UInt8.ofNat n) =
      ⟨some ⟨[UInt8.ofNat n], n - 0xE0, if n = 0xE0 then 0xA0 else 0x80,
        if n = 0xED then 0x9F else 0xBF, 1⟩, found⟩ := by
  have hbyte := toNat_ofNat_of_lt (show n < 256 by omega)
  simp only [start, UInt8.lt_iff_toNat_lt, hbyte, UInt8.reduceToNat]
  rw [if_neg (by omega), if_neg (by omega), if_neg (by omega)]
  by_cases hfirst : n = 0xE0
  · rw [hfirst]
    rfl
  · rw [if_neg (ofNat_ne (by omega) hfirst), if_neg hfirst]
    by_cases hsurrogate : n = 0xED
    · rw [hsurrogate]
      rfl
    · rw [if_neg (ofNat_ne (by omega) hsurrogate), if_neg hsurrogate, if_pos hhigh]

/-- The first byte of a character of four bytes leaves as second bytes those that spell no shorter
character and none beyond the last. -/
theorem start_four {n : Nat} (hlow : 0xF0 ≤ n) (hhigh : n < 0xF5) :
    start found (UInt8.ofNat n) =
      ⟨some ⟨[UInt8.ofNat n], n - 0xF0, if n = 0xF0 then 0x90 else 0x80,
        if n = 0xF4 then 0x8F else 0xBF, 2⟩, found⟩ := by
  have hbyte := toNat_ofNat_of_lt (show n < 256 by omega)
  simp only [start, UInt8.lt_iff_toNat_lt, hbyte, UInt8.reduceToNat]
  rw [if_neg (by omega), if_neg (by omega), if_neg (by omega),
    if_neg (ofNat_ne (by omega) (by omega : n ≠ 0xE0)),
    if_neg (ofNat_ne (by omega) (by omega : n ≠ 0xED)), if_neg (by omega)]
  by_cases hfirst : n = 0xF0
  · rw [hfirst]
    rfl
  · rw [if_neg (ofNat_ne (by omega) hfirst), if_neg hfirst]
    by_cases hlast : n = 0xF4
    · rw [hlast]
      rfl
    · rw [if_pos (by omega), if_neg hlast]

theorem feed_between (b : UInt8) : feed ⟨none, found⟩ b = start found b := rfl

/-- A scan between two characters takes the bytes of one. -/
theorem foldl_feed_utf8EncodeChar (c : Char) :
    (String.utf8EncodeChar c).foldl feed ⟨none, found⟩ = ⟨none, .char c :: found⟩ := by
  have hvalid : c.val.toNat < 0xD800 ∨ 0xDFFF < c.val.toNat ∧ c.val.toNat < 0x110000 := c.valid
  have hchar : Char.ofNat c.val.toNat = c := Char.ofNat_toNat c
  simp only [String.utf8EncodeChar]
  generalize c.val.toNat = v at hvalid hchar
  split
  · rw [List.foldl_cons, List.foldl_nil, feed_between, start_one found (by omega), hchar]
  · split
    · rw [List.foldl_cons, List.foldl_cons, List.foldl_nil, feed_between, start_two found (by omega) (by omega),
        feed_of_within found (by omega) (by simp) (by simp; omega)]
      have hbits : (v / 64 % 32 + 192 - 0xC0) * 64 + (v % 64 + 128 - 0x80) = v := by omega
      simp only [hbits, hchar]
    · split
      · rw [List.foldl_cons, List.foldl_cons, List.foldl_cons, List.foldl_nil, feed_between,
          start_three found (by omega) (by omega),
          feed_of_within found (by omega)
            (by simp only [apply_ite UInt8.toNat, UInt8.reduceToNat]; split <;> omega)
            (by simp only [apply_ite UInt8.toNat, UInt8.reduceToNat]; split <;> omega)]
        simp only
        rw [feed_of_within found (by omega) (by simp) (by simp; omega)]
        have hbits : ((v / 4096 % 16 + 224 - 0xE0) * 64 + (v / 64 % 64 + 128 - 0x80)) * 64 +
            (v % 64 + 128 - 0x80) = v := by omega
        simp only [hbits, hchar]
      · rw [List.foldl_cons, List.foldl_cons, List.foldl_cons, List.foldl_cons, List.foldl_nil, feed_between,
          start_four found (by omega) (by omega),
          feed_of_within found (by omega)
            (by simp only [apply_ite UInt8.toNat, UInt8.reduceToNat]; split <;> omega)
            (by simp only [apply_ite UInt8.toNat, UInt8.reduceToNat]; split <;> omega)]
        simp only
        rw [feed_of_within found (by omega) (by simp) (by simp; omega)]
        simp only
        rw [feed_of_within found (by omega) (by simp) (by simp; omega)]
        have hbits : (((v / 262144 % 8 + 240 - 0xF0) * 64 + (v / 4096 % 64 + 128 - 0x80)) * 64 +
            (v / 64 % 64 + 128 - 0x80)) * 64 + (v % 64 + 128 - 0x80) = v := by omega
        simp only [hbits, hchar]

theorem foldl_feed_encode (text : List Char) :
    (text.flatMap String.utf8EncodeChar).foldl feed ⟨none, found⟩ =
      ⟨none, (text.map Piece.char).reverse ++ found⟩ := by
  induction text generalizing found with
  | nil => rfl
  | cons c rest ih =>
      rw [List.flatMap_cons, List.foldl_append, foldl_feed_utf8EncodeChar, ih, List.map_cons,
        List.reverse_cons, List.append_assoc, List.singleton_append]

end Scan

/-- The bytes of a text are scanned as its characters. -/
theorem scan_encode (text : String) : scan (encode text) = text.toList.map Piece.char := by
  rw [scan, encode, Scan.foldl_feed_encode, List.append_nil, Scan.finish, List.reverse_reverse]

/-- A text is read back from its bytes. -/
theorem decode?_encode (text : String) : decode? (encode text) = some text := by
  have hread : (text.toList.map Piece.char).map Piece.char? = text.toList.map some := by
    rw [List.map_map]
    rfl
  simp only [decode?, scan_encode, hread]
  simp

end ClockWarden.Utf8
