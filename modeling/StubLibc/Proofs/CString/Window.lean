import StubLibc.Proofs.CString.Bounded
import StubLibc.Session.Call

/-!
# Copying into a window

A bounded copy fills the first bytes of its target, its window, and nothing else.  It is a scan for
the length of the source, then one pass over the window that copies what the scan has found and
fills up with NUL.

The scan and the pass stop at the same offset, which is where the window or the string ends.  Every
offset the pass loads from has been scanned, so the copy needs no more of the source than the scan
does, and its stores one after the other give the buffer that the call leaves.
-/

namespace StubLibc

namespace CString

/-! ## Windows -/

/-- As much of a text as a size takes, filled up to the size with NUL. -/
def filled (text : Bytes) (count : Nat) : Bytes :=
  text.take count ++ List.replicate (count - text.length) 0

/-- The content of the source cut to a size and filled up to it with NUL. -/
def window (source : Pointer) (count : Nat) : Bytes := filled (content source) count

@[simp]
theorem length_window (source : Pointer) (count : Nat) : (window source count).length = count := by
  rw [window, filled, List.length_append, List.length_take, List.length_replicate]
  omega

theorem filled_zero (text : Bytes) : filled text 0 = [] := by
  rw [filled, List.take_zero, Nat.zero_sub]
  rfl

theorem filled_nil_succ (count : Nat) : filled [] (count + 1) = 0 :: filled [] count := by
  rw [filled, filled, List.take_nil, List.take_nil]
  rfl

theorem filled_cons_succ (byte : UInt8) (text : Bytes) (count : Nat) :
    filled (byte :: text) (count + 1) = byte :: filled text count := by
  rw [filled, List.take_succ_cons, List.length_cons, Nat.add_sub_add_right]
  rfl

theorem filled_take (text : Bytes) (count : Nat) :
    filled (text.take count) count = filled text count := by
  have hpadding : count - min count text.length = count - text.length := by omega
  rw [filled, filled, List.take_take, Nat.min_self, List.length_take, hpadding]

theorem zero_not_mem_content (source : Pointer) : 0 ∉ content source := by
  intro hmem
  have hne := List.all_eq_true.mp List.all_takeWhile _ hmem
  simp at hne

theorem isPrefix_content (memory : Bytes) : content (some memory) <+: memory :=
  List.takeWhile_prefix _

/-- A string that can be read up to a size has a NUL below it where its content ends below it. -/
theorem zero_mem_take_iff {memory : Bytes} {count : Nat} (h : IsReadable memory (some count)) :
    0 ∈ memory.take count ↔ (content (some memory)).length < count := by
  have hprefix := isPrefix_content memory
  constructor
  · intro hmem
    rw [← Nat.not_le]
    intro hle
    obtain ⟨rest, hrest⟩ := hprefix
    rw [← hrest, List.take_append_of_le_length hle] at hmem
    exact zero_not_mem_content _ (List.mem_of_mem_take hmem)
  · intro hlt
    refine Decidable.byContradiction fun hmem ↦ ?_
    have hcount : count ≤ memory.length := by
      obtain hnul | ⟨limit, hlimit, hle⟩ := h
      · rw [← List.take_append_drop count memory, List.mem_append] at hnul
        have hdrop := List.length_pos_of_mem (hnul.resolve_left hmem)
        rw [List.length_drop] at hdrop
        omega
      · cases hlimit
        exact hle
    have hall : ∀ byte ∈ memory.take count, (decide (byte ≠ 0)) = true := by
      intro byte hbyte
      exact decide_eq_true fun hzero ↦ hmem (hzero ▸ hbyte)
    have hcontent : content (some memory) =
        memory.take count ++ (memory.drop count).takeWhile (· ≠ 0) := by
      rw [← List.takeWhile_append_of_pos hall, List.take_append_drop]
      rfl
    rw [hcontent, List.length_append, List.length_take_of_le hcount] at hlt
    omega

theorem zero_mem_window_iff {source : Pointer} {count : Nat}
    (h : ∀ memory ∈ source, IsReadable memory (some count)) :
    0 ∈ window source count ↔ (∃ memory ∈ source, 0 ∈ memory.take count) ∨
      source = none ∧ 0 < count := by
  have hshort : 0 ∈ window source count ↔ (content source).length < count := by
    have hnot : 0 ∉ (content source).take count :=
      fun hmem ↦ zero_not_mem_content source (List.mem_of_mem_take hmem)
    rw [window, filled, List.mem_append, List.mem_replicate, or_iff_right hnot, and_iff_left rfl]
    omega
  rw [hshort]
  cases source with
  | none => simp [content]
  | some memory => simp [zero_mem_take_iff (h memory rfl)]

/-! ## What the stores leave -/

/-- A store makes one byte more of the target final. -/
theorem take_set_append {target : Bytes} {offset : Nat} (hoffset : offset < target.length)
    (byte : UInt8) (rest : Bytes) :
    (target.set offset byte).take (offset + 1) ++ rest = target.take offset ++ byte :: rest := by
  rw [List.take_add_one, List.take_set_of_le (Nat.le_refl _), List.getElem?_set_self hoffset,
    List.append_assoc]
  rfl

/-- A pass fills the target from its offset on and leaves the rest of it. -/
theorem foldl_fillFrom {target : Bytes} {offset count : Nat} (source : Bytes)
    (htarget : offset + count ≤ target.length) :
    (fillFrom offset source count).foldl Access.perform target =
      target.take offset ++ (filled source count ++ target.drop (offset + count)) := by
  fun_induction fillFrom offset source count generalizing target with
  | case1 offset source =>
    rw [filled_zero]
    exact (List.take_append_drop offset target).symm
  | case2 offset count ih =>
    have hset : offset + 1 + count ≤ (target.set offset 0).length := by
      rw [List.length_set]
      omega
    have hdrop : offset < offset + 1 + count := by omega
    rw [List.foldl_cons, Access.perform, ih hset, take_set_append (by omega),
      List.drop_set_of_lt hdrop, filled_nil_succ, Nat.add_right_comm, Nat.add_assoc]
    rfl
  | case3 offset byte source count ih =>
    have hset : offset + 1 + count ≤ (target.set offset byte).length := by
      rw [List.length_set]
      omega
    have hdrop : offset < offset + 1 + count := by omega
    rw [List.foldl_cons, List.foldl_cons, Access.perform, Access.perform, ih hset,
      take_set_append (by omega), List.drop_set_of_lt hdrop, filled_cons_succ,
      Nat.add_right_comm, Nat.add_assoc]
    rfl

theorem foldl_perform_loads (loads : List Nat) (target : Bytes) :
    (loads.map .load).foldl Access.perform target = target := by
  induction loads with
  | nil => rfl
  | cons load loads ih => exact ih

/-! ## Copies -/

/-- The access is to the window, and to the source only where a copy has to look: at a byte that is
readable, below the size of the window, and with no NUL before it. -/
def Access.IsNeeded (source : Pointer) (count : Nat) : Access → Prop
  | load offset =>
    offset < count ∧ ∃ memory ∈ source, offset < memory.length ∧ 0 ∉ memory.take offset
  | store offset _ => offset < count

variable {memory : Bytes} {target : Option Bytes} {source : Pointer} {count : Nat}

/-- A pass stores to its part of the window, and loads as far as its text goes. -/
theorem isNeeded_of_mem_fillFrom {offset left : Nat} {text : Bytes}
    (hcount : offset + left = count)
    (hload : ∀ index, offset ≤ index → index < offset + text.length →
      (Access.load index).IsNeeded source count) :
    ∀ access ∈ fillFrom offset text left, access.IsNeeded source count := by
  fun_induction fillFrom offset text left with
  | case1 => nofun
  | case2 offset left ih =>
    have hstore : offset < count := by omega
    have hnothing : ∀ index, offset + 1 ≤ index → index < offset + 1 + ([] : Bytes).length →
        (Access.load index).IsNeeded source count :=
      fun index hle hlt ↦ absurd hlt (Nat.not_lt.mpr hle)
    exact List.forall_mem_cons.mpr ⟨hstore, ih (by omega) hnothing⟩
  | case3 offset byte text left ih =>
    have hstore : offset < count := by omega
    have hfirst := hload offset (Nat.le_refl _) (Nat.lt_add_of_pos_right (Nat.succ_pos _))
    have hrest : ∀ index, offset + 1 ≤ index → index < offset + 1 + text.length →
        (Access.load index).IsNeeded source count := by
      intro index hle hlt
      apply hload index (Nat.le_of_succ_le hle)
      rw [List.length_cons]
      omega
    exact List.forall_mem_cons.mpr
      ⟨hfirst, List.forall_mem_cons.mpr ⟨hstore, ih (by omega) hrest⟩⟩

/-- The bytes before the end of a content are readable and no NUL. -/
theorem isNeeded_load {index : Nat} (hcount : index < count)
    (hcontent : index < (content (some memory)).length) :
    (Access.load index).IsNeeded (some memory) count := by
  have hprefix := isPrefix_content memory
  have hsubset : memory.take index ⊆ content (some memory) := by
    rw [List.prefix_iff_eq_take.mp hprefix]
    exact List.take_subset_take_left memory (Nat.le_of_lt hcontent)
  exact ⟨hcount, memory, rfl, Nat.lt_of_lt_of_le hcontent hprefix.length_le,
    fun hmem ↦ zero_not_mem_content _ (hsubset hmem)⟩

/-- The scan of a copy finds the content of the source, or as much of it as the window takes. -/
theorem take_length_of_scan? {scanned : Scan} (h : scan? memory (some count) = some scanned) :
    memory.take scanned.length = (content (some memory)).take count := by
  have hlength := length_scan memory (some count)
  rw [scan_of_scan? h] at hlength
  dsimp only at hlength
  have hprefix := (List.take_prefix count _).trans (isPrefix_content memory)
  rw [hlength]
  exact (List.prefix_iff_eq_take.mp hprefix).symm

theorem copyAccesses?_idle (h : target = none ∨ count = 0) :
    copyAccesses? target source count = some [] := by
  unfold copyAccesses?
  rw [if_pos]
  rwa [Option.isNone_iff_eq_none]

/-- A copy of a source that can be read as far as the window goes comes to its end: it makes the
loads of a scan, and a pass over the window. -/
theorem exists_copyAccesses? (htarget : target ≠ none) (hcount : count ≠ 0)
    (hsource : ∀ memory ∈ source, IsReadable memory (some count)) :
    ∃ loads : List Nat, copyAccesses? target source count =
        some (loads.map .load ++ fillFrom 0 ((content source).take count) count) ∧
      ∀ offset ∈ loads, (Access.load offset).IsNeeded source count := by
  have hworks : ¬ (target.isNone = true ∨ count = 0) := by
    rw [Option.isNone_iff_eq_none]
    exact not_or.mpr ⟨htarget, hcount⟩
  unfold copyAccesses?
  rw [if_neg hworks]
  cases source with
  | none => exact ⟨[], congrArg (fun text ↦ some (fillFrom 0 text count)) List.take_nil.symm, nofun⟩
  | some memory =>
    obtain ⟨scanned, hscanned⟩ := exists_scan? (hsource memory rfl)
    refine ⟨scanned.loads, ?_, fun offset hload ↦ ?_⟩
    · dsimp only
      rw [hscanned, ← take_length_of_scan? hscanned]
      rfl
    · obtain ⟨hreadable, hlimit, hnul⟩ := within_of_scan? hscanned offset hload
      exact ⟨hlimit count rfl, memory, rfl, hreadable, hnul⟩

theorem isNeeded_fillFrom (source : Pointer) (count : Nat) :
    ∀ access ∈ fillFrom 0 ((content source).take count) count, access.IsNeeded source count := by
  apply isNeeded_of_mem_fillFrom (Nat.zero_add count)
  intro index _ hindex
  rw [Nat.zero_add, List.length_take, Nat.lt_min] at hindex
  cases source with
  | none => exact absurd hindex.2 (Nat.not_lt_zero index)
  | some memory => exact isNeeded_load hindex.1 hindex.2

/-- What the accesses of a copy are: they leave the window in the target, and are all needed. -/
theorem exists_accesses (htarget : ∀ memory ∈ target, count ≤ memory.length)
    (hsource : ∀ memory ∈ source, IsReadable memory (some count)) :
    ∃ accesses, copyAccesses? target source count = some accesses ∧
      (∀ memory ∈ target,
        accesses.foldl Access.perform memory = window source count ++ memory.drop count) ∧
      (∀ access ∈ accesses, access.IsNeeded source count) ∧
      (target = none ∨ count = 0 → accesses = []) := by
  by_cases hidle : target = none ∨ count = 0
  · refine ⟨[], copyAccesses?_idle hidle, ?_, nofun, fun _ ↦ rfl⟩
    rintro memory rfl
    rw [hidle.resolve_left nofun, window, filled_zero]
    rfl
  · obtain ⟨hnull, hcount⟩ := not_or.mp hidle
    obtain ⟨loads, haccesses, hneeded⟩ := exists_copyAccesses? hnull hcount hsource
    refine ⟨_, haccesses, fun memory hmemory ↦ ?_, ?_, fun h ↦ absurd h hidle⟩
    · have hlength := htarget memory hmemory
      rw [List.foldl_append, foldl_perform_loads, foldl_fillFrom _ (by rwa [Nat.zero_add]),
        filled_take, List.take_zero, Nat.zero_add]
      rfl
    · rw [List.forall_mem_append, List.forall_mem_map]
      exact ⟨hneeded, isNeeded_fillFrom source count⟩

end CString

/-! ## Calls -/

namespace Call

open CString

variable {target : Option Bytes} {source : Pointer} {count : Nat}

/-- A bounded copy fills its window and nothing else, and looks at no more of the source than it has
to. -/
theorem strncpy_window (htarget : ∀ memory ∈ target, count ≤ memory.length)
    (hsource : ∀ memory ∈ source, IsReadable memory (some count)) :
    (∀ session, (strncpy target source count).step session =
      .returned (.copied (target.map fun _ ↦ 0)
        (target.map fun memory ↦ window source count ++ memory.drop count)) session) ∧
    (window source count).length = count ∧
    (0 ∈ window source count ↔
      (∃ memory ∈ source, 0 ∈ memory.take count) ∨ source = none ∧ 0 < count) ∧
    ∃ accesses, copyAccesses? target source count = some accesses ∧
      (∀ memory ∈ target,
        accesses.foldl Access.perform memory = window source count ++ memory.drop count) ∧
      (∀ access ∈ accesses, access.IsNeeded source count) ∧
      (target = none ∨ count = 0 → accesses = []) := by
  obtain ⟨accesses, haccesses, hperform, hneeded⟩ := exists_accesses htarget hsource
  have hcopied : copyString target source count =
      target.map fun memory ↦ window source count ++ memory.drop count := by
    rw [copyString, haccesses]
    exact Option.map_congr hperform
  refine ⟨fun session ↦ ?_, length_window _ _, zero_mem_window_iff hsource,
    accesses, haccesses, hperform, hneeded⟩
  rw [step, hcopied]

/-- A name that fills its window has no terminator there. -/
theorem strncpy_window_unterminated :
    (∀ session, (strncpy (some [0xAA, 0xAA, 0xAA]) (some [0x45, 0x31]) 2).step session =
      .returned (.copied (some 0) (some [0x45, 0x31, 0xAA])) session) ∧
    0 ∉ window (some [0x45, 0x31]) 2 ∧
    ∃ accesses, copyAccesses? (some [0xAA, 0xAA, 0xAA]) (some [0x45, 0x31]) 2 = some accesses ∧
      ∀ access ∈ accesses, access.IsNeeded (some [0x45, 0x31]) 2 := by
  have htarget : ∀ memory ∈ some ([0xAA, 0xAA, 0xAA] : Bytes), 2 ≤ memory.length := by
    rintro memory ⟨⟩
    decide
  have hsource : ∀ memory ∈ some ([0x45, 0x31] : Bytes), IsReadable memory (some 2) := by
    rintro memory ⟨⟩
    exact .inr ⟨2, rfl, by decide⟩
  obtain ⟨hstep, -, -, accesses, haccesses, -, hneeded, -⟩ := strncpy_window htarget hsource
  exact ⟨hstep, by decide, accesses, haccesses, hneeded⟩

end Call

end StubLibc
