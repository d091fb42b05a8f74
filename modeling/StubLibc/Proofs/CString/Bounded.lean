import StubLibc.CString

/-!
# Bounded scans

A scan loads bytes one by one from the start of a string.  In memory that holds a NUL, or that is
readable up to the bound, it comes to its end; it loads no byte at the bound or past it, and none
behind the first NUL.  What it gives is the whole string cut to the bound.
-/

namespace StubLibc.CString

/-- The memory of a string holds its terminator, or as many bytes as the bound says. -/
def IsReadable (memory : Bytes) (bound : Option Nat) : Prop :=
  0 ∈ memory ∨ ∃ limit, bound = some limit ∧ limit ≤ memory.length

/-- The scan of a string ends with the result that it is known by, and loads no byte that is not
readable, no byte at the bound or past it, and no byte behind the first NUL. -/
def StaysWithin (memory : Bytes) (bound : Option Nat) : Prop :=
  ∃ scanned : Scan, scan? memory bound = some scanned ∧
    scan memory bound = (scanned.length, scanned.terminated) ∧
    ∀ offset ∈ scanned.loads,
      offset < memory.length ∧ (∀ limit ∈ bound, offset < limit) ∧ 0 ∉ memory.take offset

variable {memory rest : Bytes} {bound : Option Nat} {offset : Nat} {scanned : Scan}

/-! ## Progress -/

theorem succ_le_of_mem (hbound : bound ≠ some offset) (hoffset : ∀ limit ∈ bound, offset ≤ limit) :
    ∀ limit ∈ bound, offset + 1 ≤ limit := by
  intro limit hlimit
  apply Nat.lt_of_le_of_ne (hoffset limit hlimit)
  intro heq
  exact hbound (heq ▸ hlimit)

/-- A scan that does not end has gone past all that can be read, and has seen no NUL. -/
theorem scanFrom?_eq_none (h : scanFrom? bound offset rest = none)
    (hoffset : ∀ limit ∈ bound, offset ≤ limit) :
    0 ∉ rest ∧ ∀ limit ∈ bound, offset + rest.length < limit := by
  fun_induction scanFrom? bound offset rest with
  | case1 => cases h
  | case2 offset hbound => exact ⟨List.not_mem_nil, succ_le_of_mem hbound hoffset⟩
  | case3 => cases h
  | case4 offset hbound byte rest hne ih =>
    obtain ⟨hnul, hlong⟩ := ih (Option.map_eq_none_iff.mp h) (succ_le_of_mem hbound hoffset)
    refine ⟨List.not_mem_cons_of_ne_of_not_mem (Ne.symm hne) hnul, fun limit hlimit ↦ ?_⟩
    have hlimit := hlong limit hlimit
    rw [List.length_cons]
    omega

/-- A scan loads bytes that can be read, below the bound, and with no NUL before them. -/
theorem within_of_mem_loads (h : scanFrom? bound offset rest = some scanned)
    (hoffset : ∀ limit ∈ bound, offset ≤ limit) {load : Nat} (hload : load ∈ scanned.loads) :
    ∃ index < rest.length, load = offset + index ∧ (∀ limit ∈ bound, load < limit) ∧
      0 ∉ rest.take index := by
  fun_induction scanFrom? bound offset rest generalizing scanned with
  | case1 =>
    cases h
    cases hload
  | case2 => cases h
  | case3 offset hbound rest =>
    cases h
    rw [List.mem_singleton.mp hload]
    exact ⟨0, Nat.succ_pos _, rfl, succ_le_of_mem hbound hoffset, List.not_mem_nil⟩
  | case4 offset hbound byte rest hne ih =>
    obtain ⟨further, hfurther, rfl⟩ := Option.map_eq_some_iff.mp h
    rcases List.mem_cons.mp hload with rfl | hload
    · exact ⟨0, Nat.succ_pos _, rfl, succ_le_of_mem hbound hoffset, List.not_mem_nil⟩
    · obtain ⟨index, hindex, rfl, hlimit, hnul⟩ :=
        ih hfurther (succ_le_of_mem hbound hoffset) hload
      refine ⟨index + 1, Nat.succ_lt_succ hindex, by omega, hlimit, ?_⟩
      exact List.not_mem_cons_of_ne_of_not_mem (Ne.symm hne) hnul

theorem exists_scan? (h : IsReadable memory bound) :
    ∃ scanned, scan? memory bound = some scanned := by
  apply Option.ne_none_iff_exists'.mp
  intro hnone
  obtain ⟨hnul, hlong⟩ := scanFrom?_eq_none hnone fun _ _ ↦ Nat.zero_le _
  rcases h with hmem | ⟨limit, hlimit, hle⟩
  · exact hnul hmem
  · have hlt := hlong limit hlimit
    omega

theorem within_of_scan? (h : scan? memory bound = some scanned) :
    ∀ offset ∈ scanned.loads,
      offset < memory.length ∧ (∀ limit ∈ bound, offset < limit) ∧ 0 ∉ memory.take offset := by
  intro offset hload
  obtain ⟨index, hindex, rfl, hlimit, hnul⟩ :=
    within_of_mem_loads h (fun _ _ ↦ Nat.zero_le _) hload
  rw [Nat.zero_add]
  rw [Nat.zero_add] at hlimit
  exact ⟨hindex, hlimit, hnul⟩

theorem scan_of_scan? (h : scan? memory bound = some scanned) :
    scan memory bound = (scanned.length, scanned.terminated) := by
  rw [scan, h]

theorem staysWithin_of_isReadable (h : IsReadable memory bound) : StaysWithin memory bound := by
  obtain ⟨scanned, hscanned⟩ := exists_scan? h
  exact ⟨scanned, hscanned, scan_of_scan? hscanned, within_of_scan? hscanned⟩

/-! ## The text of a bounded scan -/

/-- A text cut to a bound. -/
def cut (bound : Option Nat) (text : Bytes) : Bytes := bound.elim text text.take

@[simp]
theorem cut_cut (bound : Option Nat) (text : Bytes) :
    cut bound (cut bound text) = cut bound text := by
  cases bound with
  | none => rfl
  | some limit => exact List.take_take.trans (congrArg text.take (Nat.min_self limit))

theorem isPrefix_cut (bound : Option Nat) (text : Bytes) : cut bound text <+: text := by
  cases bound with
  | none => exact List.prefix_refl text
  | some limit => exact List.take_prefix limit text

/-- The bytes before the first NUL; NULL has none. -/
def content (source : Pointer) : Bytes := (source.getD []).takeWhile (· ≠ 0)

theorem content_cons_zero (rest : Bytes) : content (some (0 :: rest)) = [] := rfl

theorem content_cons {byte : UInt8} (hne : byte ≠ 0) (rest : Bytes) :
    content (some (byte :: rest)) = byte :: content (some rest) :=
  List.takeWhile_cons_of_pos (decide_eq_true hne)

/-- One byte more in front of a text moves the place where it is cut. -/
theorem length_cut_cons (hbound : bound ≠ some offset) (hoffset : ∀ limit ∈ bound, offset ≤ limit)
    (byte : UInt8) (text : Bytes) :
    (cut (bound.map (· - offset)) (byte :: text)).length =
      (cut (bound.map (· - (offset + 1))) text).length + 1 := by
  cases bound with
  | none => rfl
  | some limit =>
    have hlt := succ_le_of_mem hbound hoffset limit rfl
    obtain ⟨left, rfl⟩ := Nat.exists_eq_add_of_le hlt
    have hsub : offset + 1 + left - offset = left + 1 := by omega
    simp only [cut, Option.map_some, Option.elim_some, hsub, Nat.add_sub_cancel_left,
      List.take_succ_cons, List.length_cons]

theorem cut_nil (bound : Option Nat) : cut bound [] = [] :=
  List.prefix_nil.mp (isPrefix_cut bound [])

/-- Where a scan comes to: the end of the text cut to the bound, or of the memory if that is before
it. -/
theorem length_scanFrom? (hoffset : ∀ limit ∈ bound, offset ≤ limit) :
    (scanFrom? bound offset rest).elim (offset + rest.length) Scan.length =
      offset + (cut (bound.map (· - offset)) (content (some rest))).length := by
  fun_induction scanFrom? bound offset rest with
  | case1 rest offset hbound =>
    rw [hbound, Option.map_some, Nat.sub_self]
    rfl
  | case2 offset hbound =>
    have hnil : content (some []) = [] := rfl
    rw [hnil, cut_nil]
    rfl
  | case3 offset hbound rest =>
    rw [content_cons_zero, cut_nil]
    rfl
  | case4 offset hbound byte rest hne ih =>
    have hrest := ih (succ_le_of_mem hbound hoffset)
    rw [content_cons hne, length_cut_cons hbound hoffset, List.length_cons]
    cases hscan : scanFrom? bound (offset + 1) rest with
    | none =>
      rw [hscan, Option.elim_none] at hrest
      rw [Option.map_none, Option.elim_none]
      omega
    | some scanned =>
      rw [hscan, Option.elim_some] at hrest
      rw [Option.map_some, Option.elim_some]
      change scanned.length = _
      omega

theorem length_scan (memory : Bytes) (bound : Option Nat) :
    (scan memory bound).1 = (cut bound (content (some memory))).length := by
  have hlength := @length_scanFrom? memory bound 0 fun _ _ ↦ Nat.zero_le _
  have hbound : bound.map (· - 0) = bound := Option.map_id_apply
  rw [hbound, Nat.zero_add, Nat.zero_add] at hlength
  rw [← hlength, scan, scan?]
  cases scanFrom? bound 0 memory <;> rfl

theorem bounded?_eq_cut (source : Pointer) (bound : Option Nat) :
    bounded? source bound = source.map fun memory ↦ cut bound (content (some memory)) := by
  cases source with
  | none => rfl
  | some memory =>
    have hprefix : cut bound (content (some memory)) <+: memory :=
      (isPrefix_cut _ _).trans (List.takeWhile_prefix _)
    rw [bounded?, Option.map_some, Option.map_some, length_scan,
      ← List.prefix_iff_eq_take.mp hprefix]

/-- A string that is read under a bound is the whole string cut to it. -/
theorem bounded?_eq (pointer : Pointer) (bound : Option Nat) :
    bounded? pointer bound = (bytes? pointer).map (cut bound) := by
  rw [bytes?, bounded?_eq_cut, bounded?_eq_cut, Option.map_map]
  rfl

/-- A string is the bytes of its memory before the first NUL. -/
theorem bytes_eq_content (source : Pointer) : bytes source = content source := by
  rw [bytes, bytes?, bounded?_eq_cut]
  cases source <;> rfl

end StubLibc.CString
