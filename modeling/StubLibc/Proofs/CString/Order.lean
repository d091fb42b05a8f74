import Mathlib.Data.List.Forall2
import StubLibc.Proofs.CString.Bounded
import StubLibc.Session.Call

/-!
# Comparing strings

C compares strings with their terminators: the answer is told by the first position where the two
differ, and a string that ends there has a NUL.  The comparisons here work without terminators, and
an order on lists has no last byte to look at.  The two agree because no byte is below the NUL and
no string holds one.

The answers are those of the order on lists of bytes, so they are antisymmetric and transitive, and
two strings compare equal without regard to case if they are the same letters byte by byte.
-/

namespace StubLibc

namespace CString

variable {pointer : Pointer} {s t : Bytes}

/-! ## Strings behind pointers -/

/-- The string that a pointer holds: NULL counts as the empty string, and memory holds the bytes
before its first NUL. -/
inductive Holds : Pointer → Bytes → Prop
  | null : Holds none []
  | memory {text beyond : Bytes} (h : 0 ∉ text) : Holds (some (text ++ 0 :: beyond)) text

theorem content_append_zero {text : Bytes} (h : 0 ∉ text) (beyond : Bytes) :
    content (some (text ++ 0 :: beyond)) = text := by
  have hall : ∀ byte ∈ text, decide (byte ≠ 0) = true :=
    fun byte hbyte ↦ decide_eq_true fun hzero ↦ h (hzero ▸ hbyte)
  rw [content, Option.getD_some, List.takeWhile_append_of_pos hall]
  exact List.append_nil text

theorem Holds.bytes_eq {text : Bytes} (h : Holds pointer text) : bytes pointer = text := by
  rw [bytes_eq_content]
  cases h with
  | null => rfl
  | memory h => exact content_append_zero h _

theorem Holds.not_mem {text : Bytes} (h : Holds pointer text) : 0 ∉ text := by
  cases h with
  | null => exact List.not_mem_nil
  | memory h => exact h

theorem holds_pointerTo {text : Bytes} (h : 0 ∉ text) : Holds (pointerTo text) text := .memory h

/-! ## The order of bytes -/

/-- The answer of a comparison for an order. -/
def sign : Ordering → Int
  | .lt => -1
  | .eq => 0
  | .gt => 1

theorem sign_swap (order : Ordering) : sign order.swap = -sign order := by
  cases order <;> rfl

theorem sign_nonpos_iff (order : Ordering) : sign order ≤ 0 ↔ order.isLE = true := by
  cases order <;> decide

theorem sign_eq_zero_iff (order : Ordering) : sign order = 0 ↔ order = .eq := by
  cases order <;> decide

/-- The answer of a comparison is the one for the order on lists. -/
theorem compare_eq_sign (s t : Bytes) : compare s t = sign (Ord.compare s t) := by
  fun_induction compare s t with
  | case1 => rfl
  | case2 => rw [List.compare_nil_cons]; rfl
  | case3 => rw [List.compare_cons_nil]; rfl
  | case4 x xs y ys hlt =>
    rw [List.compare_cons_cons, Std.compare_eq_lt.mpr hlt]
    rfl
  | case5 x xs y ys _ hgt =>
    rw [List.compare_cons_cons, Std.compare_eq_gt.mpr hgt]
    rfl
  | case6 x xs y ys hlt hgt ih =>
    have hxy : x = y := UInt8.le_antisymm (UInt8.not_lt.mp hgt) (UInt8.not_lt.mp hlt)
    rw [List.compare_cons_cons, Std.compare_eq_iff_eq.mpr hxy, ih]
    rfl

theorem compare_swap (s t : Bytes) : compare s t = -compare t s := by
  rw [compare_eq_sign, compare_eq_sign, ← sign_swap, ← Std.OrientedCmp.eq_swap]

theorem compare_trans {u : Bytes} (hst : compare s t ≤ 0) (htu : compare t u ≤ 0) :
    compare s u ≤ 0 := by
  rw [compare_eq_sign, sign_nonpos_iff] at *
  exact Std.TransCmp.isLE_trans hst htu

theorem compare_eq_zero_iff : compare s t = 0 ↔ s = t := by
  rw [compare_eq_sign, sign_eq_zero_iff, Std.compare_eq_iff_eq]

/-! ## Strings with terminators -/

/-- The first position at which two texts differ, and the bytes there. -/
structure FirstDifference (first second : Bytes) (position : Nat) (x y : UInt8) : Prop where
  same : first.take position = second.take position
  left : first[position]? = some x
  right : second[position]? = some y
  ne : x ≠ y

theorem firstDifference_zero {x y : UInt8} (h : x ≠ y) (first second : Bytes) :
    FirstDifference (x :: first) (y :: second) 0 x y :=
  ⟨rfl, rfl, rfl, h⟩

theorem FirstDifference.cons {first second : Bytes} {position : Nat} {x y : UInt8}
    (h : FirstDifference first second position x y) (byte : UInt8) :
    FirstDifference (byte :: first) (byte :: second) (position + 1) x y :=
  ⟨congrArg (byte :: ·) h.same, h.left, h.right, h.ne⟩

/-- What C says of the answer of a comparison: it is zero for equal strings, and otherwise has the
sign of the difference of the first bytes that differ, with the terminators among them. -/
structure IsComparison (s t : Bytes) (answer : Int) : Prop where
  eq_zero_iff : answer = 0 ↔ s = t
  differs : s ≠ t → ∃ position x y, FirstDifference (s ++ [0]) (t ++ [0]) position x y ∧
    answer = Int.sign (x.toNat - y.toNat)

theorem sign_eq_neg_one_of_lt {x y : UInt8} (h : x < y) : Int.sign (x.toNat - y.toNat) = -1 := by
  rw [Int.sign_eq_neg_one_iff_neg]
  have hlt := UInt8.lt_iff_toNat_lt.mp h
  omega

theorem sign_eq_one_of_lt {x y : UInt8} (h : y < x) : Int.sign (x.toNat - y.toNat) = 1 := by
  rw [Int.sign_eq_one_iff_pos]
  have hlt := UInt8.lt_iff_toNat_lt.mp h
  omega

theorem zero_lt_of_not_mem {x : UInt8} {rest : Bytes} (h : 0 ∉ x :: rest) : 0 < x := by
  rw [List.mem_cons, not_or] at h
  exact UInt8.pos_iff_ne_zero.mpr (Ne.symm h.1)

/-- A string that ends where the other goes on has its terminator there, which is below every byte
of a string. -/
theorem exists_firstDifference (hs : 0 ∉ s) (ht : 0 ∉ t) (hne : s ≠ t) :
    ∃ position x y, FirstDifference (s ++ [0]) (t ++ [0]) position x y ∧
      compare s t = Int.sign (x.toNat - y.toNat) := by
  fun_induction compare s t with
  | case1 => exact absurd rfl hne
  | case2 y ys =>
    have hlt := zero_lt_of_not_mem ht
    have hne := UInt8.ne_of_lt hlt
    exact ⟨0, 0, y, firstDifference_zero hne _ _, (sign_eq_neg_one_of_lt hlt).symm⟩
  | case3 x xs =>
    have hlt := zero_lt_of_not_mem hs
    have hne := (UInt8.ne_of_lt hlt).symm
    exact ⟨0, x, 0, firstDifference_zero hne _ _, (sign_eq_one_of_lt hlt).symm⟩
  | case4 x xs y ys hlt =>
    have hne := UInt8.ne_of_lt hlt
    exact ⟨0, x, y, firstDifference_zero hne _ _, (sign_eq_neg_one_of_lt hlt).symm⟩
  | case5 x xs y ys _ hgt =>
    have hne := (UInt8.ne_of_lt hgt).symm
    exact ⟨0, x, y, firstDifference_zero hne _ _, (sign_eq_one_of_lt hgt).symm⟩
  | case6 x xs y ys hlt hgt ih =>
    obtain rfl : x = y := UInt8.le_antisymm (UInt8.not_lt.mp hgt) (UInt8.not_lt.mp hlt)
    rw [List.mem_cons, not_or] at hs ht
    have hrest : xs ≠ ys := fun h ↦ hne (congrArg (x :: ·) h)
    obtain ⟨position, left, right, hdifference, hanswer⟩ := ih hs.2 ht.2 hrest
    exact ⟨position + 1, left, right, hdifference.cons x, hanswer⟩

theorem isComparison_compare (hs : 0 ∉ s) (ht : 0 ∉ t) : IsComparison s t (compare s t) :=
  ⟨compare_eq_zero_iff, exists_firstDifference hs ht⟩

/-! ## Letters of either case -/

def IsUpper (byte : UInt8) : Prop := 0x41 ≤ byte ∧ byte ≤ 0x5A

/-- The same byte, or the same letter in the other case. -/
def SameLetter (x y : UInt8) : Prop :=
  x = y ∨ IsUpper x ∧ y = x + 0x20 ∨ IsUpper y ∧ x = y + 0x20

open Bytes (lowerAscii)

theorem lowerAscii_of_isUpper {byte : UInt8} (h : IsUpper byte) :
    lowerAscii byte = byte + 0x20 := by
  rw [lowerAscii, if_pos (by simpa [IsUpper] using h)]

theorem lowerAscii_of_not_isUpper {byte : UInt8} (h : ¬ IsUpper byte) :
    lowerAscii byte = byte := by
  rw [lowerAscii, if_neg (by simpa [IsUpper] using h)]

theorem isUpper_iff {byte : UInt8} : IsUpper byte ↔ 0x41 ≤ byte.toNat ∧ byte.toNat ≤ 0x5A := by
  rw [IsUpper, UInt8.le_iff_toNat_le, UInt8.le_iff_toNat_le]
  rfl

theorem toNat_add_of_isUpper {byte : UInt8} (h : IsUpper byte) :
    (byte + 0x20).toNat = byte.toNat + 0x20 := by
  have hle := (isUpper_iff.mp h).2
  have hlt : byte.toNat + (0x20 : UInt8).toNat < 2 ^ 8 := by
    change byte.toNat + 0x20 < 2 ^ 8
    omega
  rw [UInt8.toNat_add, Nat.mod_eq_of_lt hlt]
  rfl

/-- The lower-case letters are no upper-case letters. -/
theorem not_isUpper_add {byte : UInt8} (h : IsUpper byte) : ¬ IsUpper (byte + 0x20) := by
  rw [isUpper_iff, toNat_add_of_isUpper h]
  have hle := (isUpper_iff.mp h).1
  omega

theorem lowerAscii_ne_zero {byte : UInt8} (hne : byte ≠ 0) : lowerAscii byte ≠ 0 := by
  by_cases h : IsUpper byte
  · rw [lowerAscii_of_isUpper h]
    intro hzero
    have hsum := congrArg UInt8.toNat hzero
    rw [toNat_add_of_isUpper h, UInt8.toNat_zero] at hsum
    omega
  · rwa [lowerAscii_of_not_isUpper h]

/-- Folding identifies the two cases of a letter and nothing else. -/
theorem lowerAscii_eq_iff {x y : UInt8} : lowerAscii x = lowerAscii y ↔ SameLetter x y := by
  by_cases hx : IsUpper x <;> by_cases hy : IsUpper y
  · rw [lowerAscii_of_isUpper hx, lowerAscii_of_isUpper hy]
    constructor
    · exact fun h ↦ .inl ((UInt8.add_left_inj _).mp h)
    · rintro (rfl | ⟨-, rfl⟩ | ⟨-, rfl⟩)
      · rfl
      · exact absurd hy (not_isUpper_add hx)
      · exact absurd hx (not_isUpper_add hy)
  · rw [lowerAscii_of_isUpper hx, lowerAscii_of_not_isUpper hy]
    constructor
    · exact fun h ↦ .inr (.inl ⟨hx, h.symm⟩)
    · rintro (rfl | ⟨-, rfl⟩ | ⟨h, -⟩)
      · exact absurd hx hy
      · rfl
      · exact absurd h hy
  · rw [lowerAscii_of_not_isUpper hx, lowerAscii_of_isUpper hy]
    constructor
    · exact fun h ↦ .inr (.inr ⟨hy, h⟩)
    · rintro (rfl | ⟨h, -⟩ | ⟨-, rfl⟩)
      · exact absurd hy hx
      · exact absurd h hx
      · rfl
  · rw [lowerAscii_of_not_isUpper hx, lowerAscii_of_not_isUpper hy]
    constructor
    · exact .inl
    · rintro (rfl | ⟨h, -⟩ | ⟨h, -⟩)
      · rfl
      · exact absurd h hx
      · exact absurd h hy

theorem map_lowerAscii_eq_iff :
    s.map lowerAscii = t.map lowerAscii ↔ List.Forall₂ SameLetter s t := by
  rw [← List.forall₂_eq_eq_eq, List.forall₂_map_left_iff, List.forall₂_map_right_iff]
  exact ⟨List.Forall₂.imp fun _ _ ↦ lowerAscii_eq_iff.mp,
    List.Forall₂.imp fun _ _ ↦ lowerAscii_eq_iff.mpr⟩

theorem not_mem_map_lowerAscii (h : 0 ∉ s) : 0 ∉ s.map lowerAscii := by
  intro hmem
  obtain ⟨byte, hbyte, hzero⟩ := List.mem_map.mp hmem
  exact lowerAscii_ne_zero (fun hne ↦ h (hne ▸ hbyte)) hzero

end CString

/-! ## Calls -/

namespace Call

open CString

/-- The call answers a number, and the session stays as it is. -/
def Answers (call : Call) (answer : Int) : Prop :=
  ∀ session, call.step session = .returned (.number answer) session

/-- The answers for three strings are those of an order. -/
structure Orders (call : Pointer → Pointer → Call) (a b c : Pointer) : Prop where
  antisymm : ∃ answer, (call a b).Answers answer ∧ (call b a).Answers (-answer)
  trans : ∃ first second both, (call a b).Answers first ∧ (call b c).Answers second ∧
    (call a c).Answers both ∧ (first ≤ 0 → second ≤ 0 → both ≤ 0)

variable {a b c : Pointer} {s t u : Bytes}

theorem answers_strcmp (ha : Holds a s) (hb : Holds b t) :
    (strcmp a b).Answers (compare s t) := by
  intro session
  rw [step, ha.bytes_eq, hb.bytes_eq]

theorem answers_strcasecmp (ha : Holds a s) (hb : Holds b t) :
    (strcasecmp a b).Answers (compareIgnoreCase s t) := by
  intro session
  rw [step, ha.bytes_eq, hb.bytes_eq]

/-- Calls that compare strings by some key of theirs answer an order. -/
theorem orders_of_answers {call : Pointer → Pointer → Call} (key : Bytes → Bytes)
    (hcall : ∀ {a b : Pointer} {s t : Bytes}, Holds a s → Holds b t →
      (call a b).Answers (compare (key s) (key t)))
    (ha : Holds a s) (hb : Holds b t) (hc : Holds c u) : Orders call a b c where
  antisymm := by
    refine ⟨_, hcall ha hb, ?_⟩
    rw [← compare_swap]
    exact hcall hb ha
  trans := ⟨_, _, _, hcall ha hb, hcall hb hc, hcall ha hc, compare_trans⟩

/-- The string comparisons are those of C, and orders. -/
theorem compare_strings (ha : Holds a s) (hb : Holds b t) (hc : Holds c u) :
    (∃ answer, (strcmp a b).Answers answer ∧ IsComparison s t answer) ∧
    (∃ answer, (strcasecmp a b).Answers answer ∧
      (strcmp (pointerTo (s.map Bytes.lowerAscii)) (pointerTo (t.map Bytes.lowerAscii))).Answers
        answer ∧
      (answer = 0 ↔ List.Forall₂ SameLetter s t) ∧
      ∀ {a' b' : Pointer} {s' t' : Bytes}, List.Forall₂ SameLetter s s' →
        List.Forall₂ SameLetter t t' → Holds a' s' → Holds b' t' →
          (strcasecmp a' b').Answers answer) ∧
    Orders strcmp a b c ∧ Orders strcasecmp a b c := by
  have hleft := holds_pointerTo (not_mem_map_lowerAscii ha.not_mem)
  have hright := holds_pointerTo (not_mem_map_lowerAscii hb.not_mem)
  refine ⟨⟨_, answers_strcmp ha hb, isComparison_compare ha.not_mem hb.not_mem⟩,
    ⟨_, answers_strcasecmp ha hb, answers_strcmp hleft hright, ?_, ?_⟩,
    orders_of_answers id answers_strcmp ha hb hc,
    orders_of_answers (List.map Bytes.lowerAscii) answers_strcasecmp ha hb hc⟩
  · rw [compareIgnoreCase, compare_eq_zero_iff, map_lowerAscii_eq_iff]
  · intro a' b' s' t' hs ht ha' hb'
    have hanswers := answers_strcasecmp ha' hb'
    rwa [compareIgnoreCase, ← map_lowerAscii_eq_iff.mpr hs, ← map_lowerAscii_eq_iff.mpr ht]
      at hanswers

/-- Names in two cases, one of them in memory that goes on behind its terminator, and NULL. -/
theorem compare_strings_twoCases :
    (strcasecmp (some [0x45, 0x31, 0, 0xFF]) (some [0x65, 0x31, 0])).Answers 0 ∧
      (∃ answer, (strcmp (some [0x45, 0x31, 0, 0xFF]) (some [0x65, 0x31, 0])).Answers answer ∧
        IsComparison [0x45, 0x31] [0x65, 0x31] answer) ∧
      Orders strcmp (some [0x45, 0x31, 0, 0xFF]) (some [0x65, 0x31, 0]) none := by
  have hupper : Holds (some ([0x45, 0x31] ++ 0 :: [0xFF])) [0x45, 0x31] := .memory (by decide)
  have hlower : Holds (some ([0x65, 0x31] ++ 0 :: [])) [0x65, 0x31] := .memory (by decide)
  have hsame : List.Forall₂ SameLetter [0x45, 0x31] [0x65, 0x31] :=
    .cons (.inr (.inl ⟨⟨by decide, by decide⟩, rfl⟩)) (.cons (.inl rfl) .nil)
  obtain ⟨hcompares, ⟨answer, hanswer, -, hzero, -⟩, horders, -⟩ :=
    compare_strings hupper hlower .null
  obtain rfl := hzero.mpr hsame
  exact ⟨hanswer, hcompares, horders⟩

end Call

end StubLibc
