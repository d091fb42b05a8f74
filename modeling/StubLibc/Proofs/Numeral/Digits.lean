import Mathlib.Data.Nat.Digits.Lemmas
import StubLibc.Numeral

/-!
# Digits of a number

The text of a number is its list of digits in the base, most significant first, each shown by its
glyph; zero, which has no digits, is shown by one.  Reading glyphs back gives the number, with or
without zeros in front.
-/

namespace StubLibc

namespace Radix

/-- The bytes that stand for the digits, in order. -/
def glyphs : Radix → Bytes
  | decimal => Bytes.ofAscii ['0', '1', '2', '3', '4', '5', '6', '7', '8', '9']
  | hexLower => Bytes.ofAscii
      ['0', '1', '2', '3', '4', '5', '6', '7', '8', '9', 'a', 'b', 'c', 'd', 'e', 'f']
  | hexUpper => Bytes.ofAscii
      ['0', '1', '2', '3', '4', '5', '6', '7', '8', '9', 'A', 'B', 'C', 'D', 'E', 'F']

def glyph (radix : Radix) (digit : Nat) : UInt8 := radix.glyphs.getD digit 0

/-- The number that a run of glyphs stands for. -/
def read (radix : Radix) (text : Bytes) : Nat :=
  Nat.ofDigits radix.base (text.reverse.map radix.glyphs.idxOf)

theorem toUInt8_digit (radix : Radix) {digit : Nat} (h : digit < radix.base) :
    (radix.digit digit).toUInt8 = radix.glyph digit := by
  revert digit
  cases radix <;> decide

theorem idxOf_glyph (radix : Radix) {digit : Nat} (h : digit < radix.base) :
    radix.glyphs.idxOf (radix.glyph digit) = digit := by
  revert digit
  cases radix <;> decide

theorem glyph_zero (radix : Radix) : radix.glyph 0 = 0x30 := by
  cases radix <;> rfl

theorem glyph_eq_zero_iff (radix : Radix) {digit : Nat} (h : digit < radix.base) :
    radix.glyph digit = 0x30 ↔ digit = 0 := by
  constructor
  · intro hglyph
    rw [← idxOf_glyph radix h, hglyph, ← glyph_zero radix,
      idxOf_glyph radix (by have := radix.two_le_base; omega)]
  · rintro rfl
    exact glyph_zero radix

/-- Glyphs are read as the digits that they stand for. -/
theorem read_map_glyph (radix : Radix) {digits : List Nat}
    (h : ∀ digit ∈ digits, digit < radix.base) :
    radix.read (digits.reverse.map radix.glyph) = Nat.ofDigits radix.base digits := by
  have hdigits : digits.map (fun digit ↦ radix.glyphs.idxOf (radix.glyph digit)) = digits :=
    (List.map_congr_left fun digit hdigit ↦ radix.idxOf_glyph (h digit hdigit)).trans
      (List.map_id digits)
  rw [read, ← List.map_reverse, List.reverse_reverse, List.map_map]
  exact congrArg (Nat.ofDigits radix.base) hdigits

/-- Zeros in front of a number change nothing. -/
theorem read_replicate_append (radix : Radix) (count : Nat) (text : Bytes) :
    radix.read (List.replicate count 0x30 ++ text) = radix.read text := by
  have hzero : radix.glyphs.idxOf 0x30 = 0 := by cases radix <;> rfl
  simp [read, hzero, Nat.ofDigits_append_replicate_zero]

end Radix

namespace Numeral

/-- The shortest text of a number. -/
def shortest (radix : Radix) (n : Nat) : Bytes :=
  if n = 0 then [radix.glyph 0] else (Nat.digits radix.base n).reverse.map radix.glyph

theorem ofAscii_digits (radix : Radix) (n : Nat) :
    Bytes.ofAscii (digits radix n) = shortest radix n := by
  have hbase := radix.two_le_base
  fun_induction digits radix n with
  | case1 n hlt =>
    rw [shortest]
    split
    · next hzero =>
      subst hzero
      simp [Bytes.ofAscii, radix.toUInt8_digit hlt]
    · next hne =>
      simp [Bytes.ofAscii, radix.toUInt8_digit hlt, Nat.digits_of_lt _ _ hne hlt]
  | case2 n hle ih =>
    have hquotient : n / radix.base ≠ 0 := by
      rw [Nat.div_ne_zero_iff]
      omega
    have hdigit := radix.toUInt8_digit (Nat.mod_lt n (by omega : 0 < radix.base))
    rw [shortest, if_neg hquotient] at ih
    rw [shortest, if_neg (by omega), Nat.digits_def' hbase (by omega), List.reverse_cons,
      List.map_append, ← ih]
    simp [Bytes.ofAscii, hdigit]

theorem read_shortest (radix : Radix) (n : Nat) : radix.read (shortest radix n) = n := by
  have hbase := radix.two_le_base
  unfold shortest
  split
  · next hzero =>
    have hread : radix.read ([0].reverse.map radix.glyph) = Nat.ofDigits radix.base [0] :=
      radix.read_map_glyph (by simp; omega)
    simpa [hzero] using hread
  · rw [radix.read_map_glyph fun _ ↦ Nat.digits_lt_base hbase, Nat.ofDigits_digits]

/-- Only zero starts with the glyph of zero: no text is longer than it has to be. -/
theorem head?_shortest_eq_zero_iff (radix : Radix) (n : Nat) :
    (shortest radix n).head? = some 0x30 ↔ n = 0 := by
  constructor
  · intro hhead
    by_contra hne
    have hdigits : Nat.digits radix.base n ≠ [] := Nat.digits_ne_nil_iff_ne_zero.mpr hne
    have hlast := Nat.digits_lt_base radix.two_le_base (List.getLast_mem hdigits)
    rw [shortest, if_neg hne, List.head?_map, List.head?_reverse,
      List.getLast?_eq_some_getLast hdigits, Option.map_some, Option.some.injEq,
      radix.glyph_eq_zero_iff hlast] at hhead
    exact Nat.getLast_digit_ne_zero radix.base hne hhead
  · rintro rfl
    rw [shortest, if_pos rfl, radix.glyph_zero]
    rfl

theorem shortest_eq_zero_iff (radix : Radix) (n : Nat) : shortest radix n = [0x30] ↔ n = 0 := by
  constructor
  · intro h
    rw [← head?_shortest_eq_zero_iff radix, h, List.head?_cons]
  · rintro rfl
    rw [shortest, if_pos rfl, radix.glyph_zero]

/-- A number below a power of the base has at most as many digits as the exponent says. -/
theorem length_digits_le {radix : Radix} {n count : Nat} (hcount : 0 < count)
    (h : n < radix.base ^ count) : (digits radix n).length ≤ count := by
  rw [← Bytes.length_ofAscii, ofAscii_digits, shortest]
  split
  · exact hcount
  · rw [List.length_map, List.length_reverse]
    exact (Nat.digits_length_le_iff radix.two_le_base n).mpr h

/-- A word has at most twenty digits. -/
theorem length_digits_of_word {n : Nat} (radix : Radix) (h : n < 2 ^ 64) :
    (digits radix n).length ≤ 20 := by
  have hbase : 2 ^ 64 ≤ radix.base ^ 20 := by
    cases radix <;> decide
  exact length_digits_le (by decide) (Nat.lt_of_lt_of_le h hbase)

end Numeral

end StubLibc
