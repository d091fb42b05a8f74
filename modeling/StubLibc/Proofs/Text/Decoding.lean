import StubLibc.Text.Utf8

/-!
# Encoded text is decoded

The UTF-8 encoding of a text is well-formed, and decoding it gives the text back: each character is
one unit, whatever bytes follow it.
-/

namespace StubLibc.Utf8

variable {a b c d low high : UInt8} {rest : Bytes}

/-! ## One sequence -/

theorem inRange_iff :
    (low ≤ a && a ≤ high) = true ↔ low.toNat ≤ a.toNat ∧ a.toNat ≤ high.toNat := by
  rw [Bool.and_eq_true, decide_eq_true_eq, decide_eq_true_eq, UInt8.le_iff_toNat_le,
    UInt8.le_iff_toNat_le]

theorem not_inRange_of_lt (h : high.toNat < a.toNat) : (low ≤ a && a ≤ high) = false := by
  rw [Bool.eq_false_iff, ne_eq, inRange_iff]
  omega

theorem not_ascii_of_le (h : 0x80 ≤ a.toNat) : ¬ a < 0x80 :=
  Nat.not_lt.mpr h

theorem units_one (ha : a < 0x80) : units (a :: rest) = some (Char.ofUInt8 a) :: units rest := by
  rw [units.eq_def]
  simp only [ha, if_true]

theorem units_two (ha : (0xC2 ≤ a && a ≤ 0xDF) = true) (hb : isContinuation b = true) :
    units (a :: b :: rest) = some (ofTwo a b) :: units rest := by
  have hlow : 0xC2 ≤ a.toNat := (inRange_iff.mp ha).1
  have hascii : ¬ a < 0x80 := not_ascii_of_le (by omega)
  rw [units.eq_def]
  simp only [hascii, ha, hb, if_true, if_false]

theorem units_three (ha : (0xE0 ≤ a && a ≤ 0xEF) = true) (hb : isSecondOfThree a b = true)
    (hc : isContinuation c = true) :
    units (a :: b :: c :: rest) = some (ofThree a b c) :: units rest := by
  have hlow : 0xE0 ≤ a.toNat := (inRange_iff.mp ha).1
  have hascii : ¬ a < 0x80 := not_ascii_of_le (by omega)
  have htwo : (0xC2 ≤ a && a ≤ 0xDF) = false := not_inRange_of_lt hlow
  rw [units.eq_def]
  simp only [hascii, htwo, ha, hb, hc, if_true, if_false, Bool.false_eq_true]

theorem units_four (ha : (0xF0 ≤ a && a ≤ 0xF4) = true) (hb : isSecondOfFour a b = true)
    (hc : isContinuation c = true) (hd : isContinuation d = true) :
    units (a :: b :: c :: d :: rest) = some (ofFour a b c d) :: units rest := by
  have hlow : 0xF0 ≤ a.toNat := (inRange_iff.mp ha).1
  have hascii : ¬ a < 0x80 := not_ascii_of_le (by omega)
  have htwo : (0xC2 ≤ a && a ≤ 0xDF) = false :=
    not_inRange_of_lt (Nat.lt_of_lt_of_le (by decide) hlow)
  have hthree : (0xE0 ≤ a && a ≤ 0xEF) = false := not_inRange_of_lt hlow
  rw [units.eq_def]
  simp only [hascii, htwo, hthree, ha, hb, hc, hd, if_true, if_false, Bool.false_eq_true]

/-! ## Encoded characters -/

/-- The byte that continues a sequence with the six low bits of a number. -/
def continuation (n : Nat) : UInt8 := UInt8.ofNat (n % 0x40 + 0x80)

theorem toNat_continuation (n : Nat) : (continuation n).toNat = n % 0x40 + 0x80 := by
  rw [continuation, UInt8.toNat_ofNat']
  omega

theorem isContinuation_continuation (n : Nat) : isContinuation (continuation n) = true := by
  rw [isContinuation, inRange_iff, toNat_continuation]
  change 0x80 ≤ _ ∧ _ ≤ 0xBF
  omega

theorem payload_continuation (n : Nat) : payload (continuation n) = n % 0x40 := by
  rw [payload, toNat_continuation]
  omega

theorem toNat_ofNat_of_lt {n : Nat} (h : n < 0x100) : (UInt8.ofNat n).toNat = n := by
  rw [UInt8.toNat_ofNat']
  omega

/-! ## Codes

The bytes of a code, and the unit that they are. -/

variable {code : Nat}

theorem units_code_one (hhigh : code ≤ 0x7F) (rest : Bytes) :
    units (UInt8.ofNat code :: rest) = some (Char.ofNat code) :: units rest := by
  have hbyte := toNat_ofNat_of_lt (show code < 0x100 by omega)
  have hascii : UInt8.ofNat code < 0x80 := by
    rw [UInt8.lt_iff_toNat_lt, hbyte]
    exact Nat.lt_succ_of_le hhigh
  have hunit : Char.ofUInt8 (UInt8.ofNat code) = Char.ofNat code := by
    rw [← Char.ofNat_toNat (Char.ofUInt8 _)]
    exact congrArg Char.ofNat hbyte
  rw [units_one hascii, hunit]

theorem units_code_two (hlow : 0x80 ≤ code) (hhigh : code ≤ 0x7FF) (rest : Bytes) :
    units (UInt8.ofNat (code / 0x40 % 0x20 + 0xC0) :: continuation code :: rest) =
      some (Char.ofNat code) :: units rest := by
  have hlead := toNat_ofNat_of_lt (show code / 0x40 % 0x20 + 0xC0 < 0x100 by omega)
  have hrange : (0xC2 ≤ UInt8.ofNat (code / 0x40 % 0x20 + 0xC0) &&
      UInt8.ofNat (code / 0x40 % 0x20 + 0xC0) ≤ 0xDF) = true := by
    rw [inRange_iff, hlead]
    change 0xC2 ≤ _ ∧ _ ≤ 0xDF
    omega
  have hcode : (code / 0x40 % 0x20 + 0xC0) % 32 * 64 + code % 0x40 = code := by omega
  rw [units_two hrange (isContinuation_continuation code), ofTwo, hlead, payload_continuation,
    hcode]

/-- No code below the three-byte ones is written in three bytes, and no surrogate is. -/
theorem isSecondOfThree_continuation (hlow : 0x800 ≤ code) (hhigh : code ≤ 0xFFFF)
    (hvalid : code < 0xD800 ∨ 0xDFFF < code) :
    isSecondOfThree (UInt8.ofNat (code / 0x1000 % 0x10 + 0xE0)) (continuation (code / 0x40)) =
      true := by
  have hlead := toNat_ofNat_of_lt (show code / 0x1000 % 0x10 + 0xE0 < 0x100 by omega)
  have hsecond := toNat_continuation (code / 0x40)
  unfold isSecondOfThree
  split
  · next h =>
    rw [h] at hlead
    change 0xE0 = _ at hlead
    rw [inRange_iff, hsecond]
    change 0xA0 ≤ _ ∧ _ ≤ 0xBF
    omega
  split
  · next h =>
    rw [h] at hlead
    change 0xED = _ at hlead
    rw [inRange_iff, hsecond]
    change 0x80 ≤ _ ∧ _ ≤ 0x9F
    omega
  · exact isContinuation_continuation _

theorem units_code_three (hlow : 0x800 ≤ code) (hhigh : code ≤ 0xFFFF)
    (hvalid : code < 0xD800 ∨ 0xDFFF < code) (rest : Bytes) :
    units (UInt8.ofNat (code / 0x1000 % 0x10 + 0xE0) :: continuation (code / 0x40) ::
      continuation code :: rest) = some (Char.ofNat code) :: units rest := by
  have hlead := toNat_ofNat_of_lt (show code / 0x1000 % 0x10 + 0xE0 < 0x100 by omega)
  have hrange : (0xE0 ≤ UInt8.ofNat (code / 0x1000 % 0x10 + 0xE0) &&
      UInt8.ofNat (code / 0x1000 % 0x10 + 0xE0) ≤ 0xEF) = true := by
    rw [inRange_iff, hlead]
    change 0xE0 ≤ _ ∧ _ ≤ 0xEF
    omega
  have hcode : ((code / 0x1000 % 0x10 + 0xE0) % 16 * 64 + code / 0x40 % 0x40) * 64 +
      code % 0x40 = code := by omega
  rw [units_three hrange (isSecondOfThree_continuation hlow hhigh hvalid)
    (isContinuation_continuation code), ofThree, hlead, payload_continuation,
    payload_continuation, hcode]

/-- No code below the four-byte ones is written in four bytes, and none beyond the last. -/
theorem isSecondOfFour_continuation (hlow : 0x10000 ≤ code) (hhigh : code < 0x110000) :
    isSecondOfFour (UInt8.ofNat (code / 0x40000 % 0x08 + 0xF0)) (continuation (code / 0x1000)) =
      true := by
  have hlead := toNat_ofNat_of_lt (show code / 0x40000 % 0x08 + 0xF0 < 0x100 by omega)
  have hsecond := toNat_continuation (code / 0x1000)
  unfold isSecondOfFour
  split
  · next h =>
    rw [h] at hlead
    change 0xF0 = _ at hlead
    rw [inRange_iff, hsecond]
    change 0x90 ≤ _ ∧ _ ≤ 0xBF
    omega
  split
  · next h =>
    rw [h] at hlead
    change 0xF4 = _ at hlead
    rw [inRange_iff, hsecond]
    change 0x80 ≤ _ ∧ _ ≤ 0x8F
    omega
  · exact isContinuation_continuation _

theorem units_code_four (hlow : 0x10000 ≤ code) (hhigh : code < 0x110000) (rest : Bytes) :
    units (UInt8.ofNat (code / 0x40000 % 0x08 + 0xF0) :: continuation (code / 0x1000) ::
      continuation (code / 0x40) :: continuation code :: rest) =
        some (Char.ofNat code) :: units rest := by
  have hlead := toNat_ofNat_of_lt (show code / 0x40000 % 0x08 + 0xF0 < 0x100 by omega)
  have hrange : (0xF0 ≤ UInt8.ofNat (code / 0x40000 % 0x08 + 0xF0) &&
      UInt8.ofNat (code / 0x40000 % 0x08 + 0xF0) ≤ 0xF4) = true := by
    rw [inRange_iff, hlead]
    change 0xF0 ≤ _ ∧ _ ≤ 0xF4
    omega
  have hcode : (((code / 0x40000 % 0x08 + 0xF0) % 8 * 64 + code / 0x1000 % 0x40) * 64 +
      code / 0x40 % 0x40) * 64 + code % 0x40 = code := by omega
  rw [units_four hrange (isSecondOfFour_continuation hlow hhigh)
    (isContinuation_continuation (code / 0x40)) (isContinuation_continuation code), ofFour, hlead,
    payload_continuation, payload_continuation, payload_continuation, hcode]

/-! ## Texts -/

/-- The encoding of a character is one unit. -/
theorem units_encoded (c : Char) (rest : Bytes) :
    units (String.utf8EncodeChar c ++ rest) = some c :: units rest := by
  have hvalid : c.val.toNat < 0xD800 ∨ 0xDFFF < c.val.toNat ∧ c.val.toNat < 0x110000 := c.valid
  have hunit : Char.ofNat c.val.toNat = c := Char.ofNat_toNat c
  unfold String.utf8EncodeChar
  dsimp only
  generalize c.val.toNat = code at hvalid hunit ⊢
  rw [← hunit]
  split
  · exact units_code_one (by omega) rest
  split
  · exact units_code_two (by omega) (by omega) rest
  split
  · exact units_code_three (by omega) (by omega) (by omega) rest
  · exact units_code_four (by omega) (by omega) rest

theorem units_ofText (text : String) : units (Bytes.ofText text) = text.toList.map some := by
  rw [Bytes.ofText]
  induction text.toList with
  | nil => rw [List.flatMap_nil, units, List.map_nil]
  | cons c more ih => rw [List.flatMap_cons, units_encoded, ih, List.map_cons]

/-- Decoding inverts encoding. -/
theorem decode?_ofText (text : String) : decode? (Bytes.ofText text) = some text := by
  have hall : (text.toList.map some).mapM id = some text.toList := by
    induction text.toList with
    | nil => rfl
    | cons c more ih =>
      rw [List.map_cons, List.mapM_cons, ih]
      rfl
  rw [decode?, units_ofText, hall, Option.map_some, String.ofList_toList]

end StubLibc.Utf8
