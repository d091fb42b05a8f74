import StubLibc.Proofs.Format.Outcomes
import StubLibc.Proofs.Session.Formatted

/-!
# Calls that fail as a whole

A call of the `printf` family fails before it prints when it has no format, when output is asked for
and there is no buffer, when some directive converts a long double, and when a field is too large.
It then writes nothing, not even a report of a conversion that it read over in front of the failure,
and only the error status says why.  Where the descriptors are open, these are all of its failures.
-/

namespace StubLibc

open Console (Stream)
open Format

namespace Format

variable {format : Bytes} {args : VaList}

theorem renderArguments_of_hasLongDouble (h : HasLongDouble (Segment.ofFormat format))
    (args : VaList) :
    ∃ conversion, renderArguments format args = .error (.longDouble conversion) := by
  obtain ⟨conversion, hplan⟩ := ofSegments_of_hasLongDouble h
  refine ⟨conversion, ?_⟩
  rw [renderArguments, hplan]

theorem renderArguments_of_not_hasLongDouble (h : ¬ HasLongDouble (Segment.ofFormat format))
    (args : VaList) :
    renderArguments format args = renderFormat format (arguments format args) := by
  rw [renderArguments, ofSegments_of_not_hasLongDouble h]
  rfl

end Format

namespace Destination

/-- The reasons for which a call fails before it prints. -/
inductive Unprintable (destination : Destination) (pointer : Pointer) (args : VaList) : Prop
  | noFormat (hformat : CString.bytes? pointer = none)
  | noBuffer (hmissing : destination.isMissing = true)
  | longDouble {format : Bytes} (hformat : CString.bytes? pointer = some format)
    (hlong : HasLongDouble (Segment.ofFormat format))
  | wideField {format : Bytes} (hformat : CString.bytes? pointer = some format)
    (hwide : HasWideField (Segment.ofFormat format) (arguments format args))

/-- A field that is too large is the only reason for which a call fails. -/
def IsTooWide (destination : Destination) (pointer : Pointer) (args : VaList) : Prop :=
  destination.isMissing = false ∧
    ∃ format, CString.bytes? pointer = some format ∧ ¬ HasLongDouble (Segment.ofFormat format) ∧
      HasWideField (Segment.ofFormat format) (arguments format args)

variable {destination : Destination} {pointer : Pointer} {args : VaList} {format : Bytes}

/-! ## Where a rendering fails -/

theorem rendering_of_hasLongDouble (hformat : CString.bytes? pointer = some format)
    (hlong : HasLongDouble (Segment.ofFormat format)) :
    destination.rendering pointer args = .error Errno.invalid := by
  cases hthere : destination.isMissing with
  | true => exact rendering_of_isMissing hthere
  | false =>
    obtain ⟨conversion, hrender⟩ := renderArguments_of_hasLongDouble hlong args
    rw [rendering_of_format hthere hformat, hrender]
    rfl

theorem rendering_of_isTooWide (h : destination.IsTooWide pointer args) :
    destination.rendering pointer args = .error Errno.overflow := by
  obtain ⟨hthere, format, hformat, hshort, hwide⟩ := h
  obtain ⟨value, hrender⟩ := (exists_renderFormat_eq_error_iff hshort args).mpr hwide
  rw [rendering_of_format hthere hformat, renderArguments_of_not_hasLongDouble hshort, hrender]
  rfl

theorem Unprintable.rendering_of_not_isTooWide (h : destination.Unprintable pointer args)
    (hother : ¬ destination.IsTooWide pointer args) :
    destination.rendering pointer args = .error Errno.invalid := by
  cases h with
  | noFormat hformat => exact rendering_of_null hformat
  | noBuffer hmissing => exact rendering_of_isMissing hmissing
  | longDouble hformat hlong => exact rendering_of_hasLongDouble hformat hlong
  | @wideField format hformat hwide =>
    -- The fields come last: something that is looked at before them must be wrong as well.
    cases hthere : destination.isMissing with
    | true => exact rendering_of_isMissing hthere
    | false =>
      have hlong : HasLongDouble (Segment.ofFormat format) :=
        Classical.not_not.mp fun hshort ↦ hother ⟨hthere, format, hformat, hshort, hwide⟩
      exact rendering_of_hasLongDouble hformat hlong

/-- A call without a reason to fail has something to print. -/
theorem exists_rendering_of_not_unprintable (h : ¬ destination.Unprintable pointer args) :
    ∃ result, destination.rendering pointer args = .ok result := by
  have hthere : destination.isMissing = false :=
    eq_false_of_ne_true fun hmissing ↦ h (.noBuffer hmissing)
  cases hformat : CString.bytes? pointer with
  | none => exact absurd (.noFormat hformat) h
  | some format =>
    have hshort := fun hlong ↦ h (.longDouble hformat hlong)
    rw [rendering_of_format hthere hformat, renderArguments_of_not_hasLongDouble hshort]
    rcases renderFormat_arguments hshort args with ⟨result, hrender⟩ | hrender
    · rw [hrender]
      exact ⟨result, rfl⟩
    · have hwide := (exists_renderFormat_eq_error_iff hshort args).mp hrender
      exact absurd (.wideField hformat hwide) h

end Destination

namespace Call

variable {call : Call} {destination : Destination} {pointer : Pointer} {args : VaList}

/-- A call of the family that is unprintable answers `-1` and only sets the error status, to an
overflow exactly when a field that is too large is all that is wrong.  Any other call whose
descriptors are open, and whose rendering has a length that can be answered, answers that length. -/
theorem formatted_fails_whole (h : call.formatted? = some (destination, pointer, args))
    (session : Session) :
    (destination.Unprintable pointer args →
      ∃ code, call.step session = .returned (destination.reply (-1)) (session.fail code) ∧
        (code = Errno.overflow ∨ code = Errno.invalid) ∧
        (code = Errno.overflow ↔ destination.IsTooWide pointer args)) ∧
    (¬ destination.Unprintable pointer args →
      session.stdout.room = none → session.stderr.room = none →
      (∀ rendered skipped, Session.rendering? pointer args = some (rendered, skipped) →
        rendered.length ≤ maxField) →
      ∃ rendered skipped after,
        Session.rendering? pointer args = some (rendered, skipped) ∧
          call.step session =
            .returned ((destination.store rendered).reply rendered.length) after) := by
  constructor
  · intro hunprintable
    by_cases hwide : destination.IsTooWide pointer args
    · have hstep := step_of_rendering_error h (Destination.rendering_of_isTooWide hwide) session
      exact ⟨Errno.overflow, hstep, .inl rfl, iff_of_true rfl hwide⟩
    · have hrendering := hunprintable.rendering_of_not_isTooWide hwide
      have hstep := step_of_rendering_error h hrendering session
      exact ⟨Errno.invalid, hstep, .inr rfl, iff_of_false (by decide) hwide⟩
  · intro hprintable hstdout hstderr hlength
    obtain ⟨⟨rendered, skipped⟩, hrendering⟩ :=
      Destination.exists_rendering_of_not_unprintable hprintable
    have hthere : destination.isMissing = false :=
      eq_false_of_ne_true fun hmissing ↦ hprintable (.noBuffer hmissing)
    have hrenders := (Destination.rendering_eq_ok_iff hthere).mp hrendering
    have hstep := step_of_open h hrendering (hlength rendered skipped hrenders) hstdout hstderr
    exact ⟨rendered, skipped, _, hrenders, hstep⟩

/-- A width above the largest `int` behind a conversion that is read over: the buffer and the error
stream are what they were.  Without that width, five bytes to a stream. -/
theorem vsnprintf_fails_whole :
    let wide := Bytes.ofAscii ['%', 'f', '%', '2', '1', '4', '7', '4', '8', '3', '6', '4', '8', 'd']
    let hello := Bytes.ofAscii ['h', 'e', 'l', 'l', 'o']
    let before : Session := {}
    (vsnprintf (some [1, 2, 3]) 3 (CString.pointerTo wide) ⟨[], []⟩).step before =
        .returned (.printed (-1) (some [1, 2, 3])) (before.fail Errno.overflow) ∧
      ∃ after, (printf (CString.pointerTo hello) ⟨[], []⟩).step before =
        .returned (.number 5) after := by
  intro wide hello before
  have hinto : (vsnprintf (some [1, 2, 3]) 3 (CString.pointerTo wide) ⟨[], []⟩).formatted? =
      some (.memory (some [1, 2, 3]) 3, CString.pointerTo wide, ⟨[], []⟩) := rfl
  have hprint : (printf (CString.pointerTo hello) ⟨[], []⟩).formatted? =
      some (.stream .stdout, CString.pointerTo hello, ⟨[], []⟩) := rfl
  have hwide : CString.bytes? (CString.pointerTo wide) = some wide := by decide
  have hhello : CString.bytes? (CString.pointerTo hello) = some hello := by decide
  have hbroad : HasWideField (Segment.ofFormat wide) (arguments wide ⟨[], []⟩) := by
    decide +kernel
  constructor
  · obtain ⟨code, hstep, -, hcode⟩ :=
      (formatted_fails_whole hinto before).1 (.wideField hwide hbroad)
    have htooWide : Destination.IsTooWide (.memory (some [1, 2, 3]) 3) (CString.pointerTo wide)
        ⟨[], []⟩ := ⟨rfl, wide, hwide, by decide +kernel, hbroad⟩
    rw [hstep, hcode.mpr htooWide]
    rfl
  · have hrendering : Session.rendering? (CString.pointerTo hello) ⟨[], []⟩ = some (hello, []) := by
      decide +kernel
    have hprintable : ¬ Destination.Unprintable (.stream .stdout) (CString.pointerTo hello)
        ⟨[], []⟩ := by
      rintro (hformat | hmissing | ⟨hformat, hlong⟩ | ⟨hformat, hfield⟩)
      · cases hhello.symm.trans hformat
      · cases hmissing
      · cases hhello.symm.trans hformat
        exact absurd hlong (by decide +kernel)
      · cases hhello.symm.trans hformat
        exact absurd hfield (by decide +kernel)
    obtain ⟨rendered, skipped, after, hrendered, hstep⟩ :=
      (formatted_fails_whole hprint before).2 hprintable rfl rfl fun rendered skipped h ↦ by
        cases hrendering.symm.trans h
        decide
    cases hrendering.symm.trans hrendered
    exact ⟨after, hstep⟩

/-- The same width with no buffer for it: the missing buffer is looked at first, so that the error
status is not an overflow. -/
theorem vsnprintf_missing_before_wide :
    let wide := Bytes.ofAscii ['%', '2', '1', '4', '7', '4', '8', '3', '6', '4', '8', 'd']
    let before : Session := {}
    ∃ after,
      (vsnprintf none 4 (CString.pointerTo wide) ⟨[.number 1], []⟩).step before =
          .returned (.printed (-1) none) after ∧
        ¬ HasLongDouble (Segment.ofFormat wide) ∧
        HasWideField (Segment.ofFormat wide) (arguments wide ⟨[.number 1], []⟩) ∧
        after.errno = Errno.invalid ∧ after.errno ≠ Errno.overflow := by
  intro wide before
  have hinto : (vsnprintf none 4 (CString.pointerTo wide) ⟨[.number 1], []⟩).formatted? =
      some (.memory none 4, CString.pointerTo wide, ⟨[.number 1], []⟩) := rfl
  have hmissing : Destination.isMissing (.memory none 4) = true := rfl
  have hstep := step_of_rendering_error hinto (Destination.rendering_of_isMissing hmissing) before
  exact ⟨_, hstep, by decide +kernel, by decide +kernel, rfl, by decide⟩

end Call

end StubLibc
