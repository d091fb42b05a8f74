import StubLibc.Proofs.Json.Compact
import StubLibc.Text.Utf8

/-!
# Line feeds under UTF-8

Encoding and decoding neither lose line feeds nor make any: the bytes of a longer sequence are all
above ASCII, and so is the character that they stand for.  Ill-formed bytes are shown by U+FFFD,
and the byte of a line feed is never a part of them.
-/

namespace StubLibc

namespace Utf8

/-- No other code stands for the line feed; a number that is no code stands for NUL. -/
theorem ofNat_ne_lineFeed {n : Nat} (h : n ≠ 0x0A) : Char.ofNat n ≠ '\n' := by
  intro hc
  have hcode : (Char.ofNat n).toNat = 0x0A := congrArg Char.toNat hc
  by_cases hvalid : n.isValidChar
  · rw [Char.ofNat, dif_pos hvalid] at hcode
    exact h hcode
  · rw [Char.ofNat, dif_neg hvalid] at hcode
    exact absurd hcode (by decide)

theorem ofUInt8_eq_lineFeed_iff {byte : UInt8} : Char.ofUInt8 byte = '\n' ↔ byte = 0x0A := by
  constructor
  · intro h
    exact UInt8.toNat_inj.mp (congrArg Char.toNat h)
  · rintro rfl
    rfl

/-! ## Longer sequences -/

variable {a b c d : UInt8}

theorem ne_lineFeed_of_not_lt (h : ¬ a < 0x80) : a ≠ 0x0A := by
  rintro rfl
  exact h (by decide)

theorem ne_lineFeed_of_isContinuation (h : isContinuation b = true) : b ≠ 0x0A := by
  rintro rfl
  exact absurd h (by decide)

theorem ne_lineFeed_of_isSecondOfThree (h : isSecondOfThree a b = true) : b ≠ 0x0A := by
  apply ne_lineFeed_of_isContinuation
  unfold isSecondOfThree at h
  grind [isContinuation]

theorem ne_lineFeed_of_isSecondOfFour (h : isSecondOfFour a b = true) : b ≠ 0x0A := by
  apply ne_lineFeed_of_isContinuation
  unfold isSecondOfFour at h
  grind [isContinuation]

theorem ofTwo_ne_lineFeed (ha : (0xC2 ≤ a && a ≤ 0xDF) = true) : ofTwo a b ≠ '\n' := by
  apply ofNat_ne_lineFeed
  simp only [Bool.and_eq_true, decide_eq_true_eq, UInt8.le_iff_toNat_le] at ha
  have hlow : 0xC2 ≤ a.toNat := ha.1
  have hhigh : a.toNat ≤ 0xDF := ha.2
  unfold payload
  omega

/-- A leading byte without payload of its own has a second byte with some high enough. -/
theorem ofThree_ne_lineFeed (ha : (0xE0 ≤ a && a ≤ 0xEF) = true)
    (hb : isSecondOfThree a b = true) : ofThree a b c ≠ '\n' := by
  apply ofNat_ne_lineFeed
  simp only [Bool.and_eq_true, decide_eq_true_eq, UInt8.le_iff_toNat_le] at ha
  have hlow : 0xE0 ≤ a.toNat := ha.1
  have hhigh : a.toNat ≤ 0xEF := ha.2
  have hsecond : a.toNat = 0xE0 → 0xA0 ≤ b.toNat ∧ b.toNat ≤ 0xBF := by
    intro hlead
    have ha : a = 0xE0 := UInt8.toNat_inj.mp hlead
    rw [isSecondOfThree, if_pos ha, Bool.and_eq_true, decide_eq_true_eq, decide_eq_true_eq] at hb
    exact hb
  unfold payload
  omega

theorem ofFour_ne_lineFeed (ha : (0xF0 ≤ a && a ≤ 0xF4) = true)
    (hb : isSecondOfFour a b = true) : ofFour a b c d ≠ '\n' := by
  apply ofNat_ne_lineFeed
  simp only [Bool.and_eq_true, decide_eq_true_eq, UInt8.le_iff_toNat_le] at ha
  have hlow : 0xF0 ≤ a.toNat := ha.1
  have hhigh : a.toNat ≤ 0xF4 := ha.2
  have hsecond : a.toNat = 0xF0 → 0x90 ≤ b.toNat ∧ b.toNat ≤ 0xBF := by
    intro hlead
    have ha : a = 0xF0 := UInt8.toNat_inj.mp hlead
    rw [isSecondOfFour, if_pos ha, Bool.and_eq_true, decide_eq_true_eq, decide_eq_true_eq] at hb
    exact hb
  unfold payload
  omega

/-! ## Counts -/

/-- Decoding keeps every line feed and makes none, also from ill-formed bytes. -/
theorem count_lineFeed_decodeLossy (bytes : Bytes) :
    (decodeLossy bytes).toList.count '\n' = bytes.count 0x0A := by
  rw [decodeLossy, String.toList_ofList]
  fun_induction units bytes
  all_goals simp [List.count_cons, ofUInt8_eq_lineFeed_iff, ne_lineFeed_of_not_lt,
    ne_lineFeed_of_isContinuation, ofTwo_ne_lineFeed, ofThree_ne_lineFeed, ofFour_ne_lineFeed, *]
  -- What is left are second bytes, whose range depends on the leading byte.
  all_goals grind [→ ne_lineFeed_of_isSecondOfThree, → ne_lineFeed_of_isSecondOfFour]

end Utf8

namespace Bytes

theorem count_lineFeed_utf8EncodeChar (c : Char) :
    (String.utf8EncodeChar c).count 0x0A = if c = '\n' then 1 else 0 := by
  by_cases hcontrol : 0x20 ≤ c.toNat
  · have hc : c ≠ '\n' := by
      rintro rfl
      exact absurd hcontrol (by decide)
    rw [if_neg hc, List.count_eq_zero]
    intro hbyte
    have hplain : NoControl [c] := NoControl.cons_iff.mpr ⟨hcontrol, .nil⟩
    have hmem : 0x0A ∈ ofText (String.ofList [c]) := by
      simpa [ofText] using hbyte
    exact absurd (hplain.le_of_mem_ofText hmem) (by decide)
  · have hcode : c.val.toNat < 0x20 := Nat.lt_of_not_le hcontrol
    have hsize : c.utf8Size = 1 := by
      rw [Char.utf8Size_eq_one_iff, UInt32.le_iff_toNat_le]
      exact Nat.le_trans (Nat.le_of_lt hcode) (by decide)
    have hbyte : c.val.toUInt8 = 0x0A ↔ c = '\n' := by
      constructor
      · intro h
        have hlow := congrArg UInt8.toNat h
        rw [UInt32.toNat_toUInt8, Nat.mod_eq_of_lt (by omega)] at hlow
        exact Char.toNat_inj.mp hlow
      · rintro rfl
        rfl
    rw [String.utf8EncodeChar_eq_singleton hsize, List.count_singleton]
    simp only [beq_iff_eq, hbyte]

/-- Encoding keeps every line feed and makes none. -/
theorem count_lineFeed_ofText (text : String) :
    (ofText text).count 0x0A = text.toList.count '\n' := by
  rw [ofText]
  induction text.toList with
  | nil => rfl
  | cons c rest ih =>
    rw [List.flatMap_cons, List.count_append, count_lineFeed_utf8EncodeChar, ih, List.count_cons,
      Nat.add_comm]
    simp only [beq_iff_eq]

end Bytes

end StubLibc
