import StubLibc.Proofs.Session.EntryPoints

/-!
# Formatting into a window

A call that formats into the first `size` bytes of a buffer takes no notice of the size or of the
buffer, but for what it stores: its answer and the session that it leaves are those of a call that
stores nothing.  A window that is too small holds the beginning of the rendering and a terminator.
A program can therefore ask for the length first, and then for the text.
-/

namespace StubLibc

open Format

namespace Destination

variable {buffer : Option Bytes} {size : Nat}

/-- A window of a buffer, or an empty one of NULL, is a destination. -/
theorem isMissing_memory (h : size ≤ (buffer.getD []).length) :
    (memory buffer size).isMissing = false := by
  cases buffer with
  | none =>
    have hsize : ¬ 0 < size := Nat.not_lt.mpr h
    simp [isMissing, hsize]
  | some memory => rfl

end Destination

namespace Call

variable {format : Pointer} {args : VaList} {buffer : Option Bytes} {size : Nat} {code : Int32}
  {rendered : Bytes} {skipped : List Conversion}

/-- A format that fails does so whatever the window is. -/
theorem step_vsnprintf_of_error
    (h : (Destination.memory none 0).rendering format args = .error code)
    (hwindow : size ≤ (buffer.getD []).length) (session : Session) :
    (vsnprintf buffer size format args).step session =
      .returned (.printed (-1) buffer) (session.fail code) := by
  have hcall : (vsnprintf buffer size format args).formatted? =
      some (.memory buffer size, format, args) := rfl
  have hthere := Destination.isMissing_memory hwindow
  have hempty : (Destination.memory none 0).isMissing = false := rfl
  rw [← Destination.rendering_eq_rendering hthere hempty] at h
  exact step_of_rendering_error hcall h session

/-- A rendering is stored in the window; the answer and the session are the same for all of them. -/
theorem step_vsnprintf_of_rendering?
    (h : Session.rendering? format args = some (rendered, skipped))
    (hwindow : size ≤ (buffer.getD []).length) (session : Session) :
    (vsnprintf buffer size format args).step session =
      let (answer, after) := (Destination.memory none 0).deliver rendered
        (session.announce (Session.skippedRecords skipped))
      .returned (((Destination.memory buffer size).store rendered).reply answer) after := by
  have hcall : (vsnprintf buffer size format args).formatted? =
      some (.memory buffer size, format, args) := rfl
  have hrendering :=
    (Destination.rendering_eq_ok_iff (Destination.isMissing_memory hwindow)).mpr h
  rw [step_of_formatted? hcall, Destination.printVia_of_ok _ hrendering]
  rfl

theorem step_vsnprintf_of_length_le
    (h : Session.rendering? format args = some (rendered, skipped))
    (hlength : rendered.length ≤ maxField) (hwindow : size ≤ (buffer.getD []).length)
    (session : Session) :
    (vsnprintf buffer size format args).step session =
      .returned (((Destination.memory buffer size).store rendered).reply rendered.length)
        (session.announce (Session.skippedRecords skipped)) := by
  rw [step_vsnprintf_of_rendering? h hwindow, Destination.deliver_of_not_refuses hlength id]
  rfl

/-- Every window has the same answer and leaves the same session, and an empty one is left alone. -/
theorem exists_step_vsnprintf (format : Pointer) (args : VaList) (session : Session) :
    ∃ answer after, ∀ (buffer : Option Bytes) (size : Nat), size ≤ (buffer.getD []).length →
      ∃ stored, (vsnprintf buffer size format args).step session =
          .returned (.printed answer stored) after ∧ (size = 0 → stored = buffer) := by
  rcases hrendering : (Destination.memory none 0).rendering format args with
    code | ⟨rendered, skipped⟩
  · exact ⟨-1, _, fun buffer size hwindow ↦
      ⟨buffer, step_vsnprintf_of_error hrendering hwindow session, fun _ ↦ rfl⟩⟩
  · have hrenders := (Destination.rendering_eq_ok_iff rfl).mp hrendering
    refine ⟨_, _, fun buffer size hwindow ↦
      ⟨_, step_vsnprintf_of_rendering? hrenders hwindow session, ?_⟩⟩
    rintro rfl
    cases buffer <;> rfl

/-- An answer that is a length is that of the rendering. -/
theorem exists_rendering?_of_step_vsnprintf {answer : Int} {stored : Option Bytes}
    {session after : Session} (hwindow : size ≤ (buffer.getD []).length)
    (h : (vsnprintf buffer size format args).step session =
      .returned (.printed answer stored) after) (hanswer : 0 ≤ answer) :
    ∃ rendered skipped, Session.rendering? format args = some (rendered, skipped) ∧
      rendered.length ≤ maxField ∧ answer = rendered.length ∧
      after = session.announce (Session.skippedRecords skipped) := by
  rcases hrendering : (Destination.memory none 0).rendering format args with
    code | ⟨rendered, skipped⟩
  · rw [step_vsnprintf_of_error hrendering hwindow] at h
    cases h
    exact absurd hanswer (by decide)
  · have hrenders := (Destination.rendering_eq_ok_iff rfl).mp hrendering
    by_cases hlength : maxField < rendered.length
    · rw [step_vsnprintf_of_rendering? hrenders hwindow,
        Destination.deliver_of_lt_length hlength] at h
      cases h
      exact absurd hanswer (by decide)
    · have hlength := Nat.le_of_not_lt hlength
      rw [step_vsnprintf_of_length_le hrenders hlength hwindow] at h
      cases h
      exact ⟨rendered, skipped, hrenders, hlength, rfl, rfl⟩

/-- Formatting into a window answers and leaves the same session whatever the window is, the empty
one of NULL included, and stores nothing in an empty one.  The answer is a length exactly when there
is a rendering of at most the largest `int`.  It is then the length of the rendering; the window
holds as much of the rendering as leaves room for a terminator, and the terminator, and the bytes
behind it stay.  A second call with room for as many bytes as the first one answered, and one more,
stores the whole rendering with its terminator. -/
theorem vsnprintf_truncates (format : Pointer) (args : VaList) (session : Session) :
    ∃ answer after,
      (∀ (buffer : Option Bytes) (size : Nat), size ≤ (buffer.getD []).length →
        ∃ stored, (vsnprintf buffer size format args).step session =
            .returned (.printed answer stored) after ∧ (size = 0 → stored = buffer)) ∧
      (0 ≤ answer ↔ ∃ rendered skipped,
        Session.rendering? format args = some (rendered, skipped) ∧
          rendered.length ≤ maxField) ∧
      ∀ rendered skipped, Session.rendering? format args = some (rendered, skipped) →
        0 ≤ answer → answer = rendered.length ∧
          (∀ (memory : Bytes) (size : Nat), 0 < size → size ≤ memory.length →
            let kept := min (size - 1) rendered.length
            (vsnprintf (some memory) size format args).step session =
              .returned (.printed answer
                (some (rendered.take kept ++ 0 :: memory.drop (kept + 1)))) after) ∧
          ∀ memory : Bytes, rendered.length < memory.length →
            ∃ later, (vsnprintf (some memory) (answer.toNat + 1) format args).step after =
              .returned (.printed answer
                (some (rendered ++ 0 :: memory.drop (rendered.length + 1)))) later := by
  obtain ⟨answer, after, hsteps⟩ := exists_step_vsnprintf format args session
  obtain ⟨stored, hmeasured, -⟩ := hsteps none 0 (Nat.zero_le _)
  have hempty : 0 ≤ (Option.getD none [] : Bytes).length := Nat.zero_le _
  refine ⟨answer, after, hsteps, ⟨fun hanswer ↦ ?_, ?_⟩, fun rendered skipped hrenders hanswer ↦ ?_⟩
  · obtain ⟨rendered, skipped, hrenders, hlength, -⟩ :=
      exists_rendering?_of_step_vsnprintf hempty hmeasured hanswer
    exact ⟨rendered, skipped, hrenders, hlength⟩
  · rintro ⟨rendered, skipped, hrenders, hlength⟩
    rw [step_vsnprintf_of_length_le hrenders hlength hempty] at hmeasured
    cases hmeasured
    exact Int.natCast_nonneg _
  obtain ⟨found, skips, hfound, hlength, rfl, rfl⟩ :=
    exists_rendering?_of_step_vsnprintf hempty hmeasured hanswer
  cases hrenders.symm.trans hfound
  refine ⟨rfl, fun memory size hpos hsize ↦ ?_, fun memory hroom ↦ ?_⟩
  · rw [step_vsnprintf_of_length_le hrenders hlength hsize,
      Destination.store_memory_window hpos hsize]
    rfl
  · have hwindow : rendered.length + 1 ≤ ((some memory).getD []).length := hroom
    have hstored := step_vsnprintf_of_length_le hrenders hlength hwindow
      (session.announce (Session.skippedRecords skipped))
    rw [Destination.store_memory (Nat.lt_succ_self _) hroom] at hstored
    exact ⟨_, hstored⟩

/-- A rendering of three bytes, the second of them NUL: measured, cut to one byte, and stored. -/
theorem vsnprintf_truncates_nul :
    let format := CString.pointerTo (Bytes.ofAscii ['a', '%', 'c', 'b'])
    let args : VaList := ⟨[.number 0], []⟩
    let before : Session := { errno := Errno.io }
    ∃ after, (vsnprintf none 0 format args).step before = .returned (.printed 3 none) after ∧
      (vsnprintf (some [1, 2, 3, 4, 5]) 2 format args).step before =
        .returned (.printed 3 (some [0x61, 0, 3, 4, 5])) after ∧
      ∃ later, (vsnprintf (some [1, 2, 3, 4, 5]) 4 format args).step after =
        .returned (.printed 3 (some [0x61, 0, 0x62, 0, 5])) later := by
  intro format args before
  have hrenders : Session.rendering? format args = some ([0x61, 0, 0x62], []) := by
    decide +kernel
  have hshort : [0x61, 0, 0x62].length ≤ maxField := by decide
  obtain ⟨answer, after, hsteps, hlength, hstores⟩ := vsnprintf_truncates format args before
  have hanswer : 0 ≤ answer := hlength.mpr ⟨_, _, hrenders, hshort⟩
  obtain ⟨rfl, hwindow, hagain⟩ := hstores _ _ hrenders hanswer
  obtain ⟨stored, hmeasured, hempty⟩ := hsteps none 0 (Nat.zero_le _)
  cases hempty rfl
  exact ⟨after, hmeasured, hwindow [1, 2, 3, 4, 5] 2 (by decide) (by decide),
    hagain [1, 2, 3, 4, 5] (by decide)⟩

end Call

end StubLibc
