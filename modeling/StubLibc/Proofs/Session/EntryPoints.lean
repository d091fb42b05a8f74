import StubLibc.Proofs.Format.Integers
import StubLibc.Proofs.Session.Formatted

/-!
# The entry points of formatted output

Where the descriptors are open, the calls that format do the same work: they give the same answer,
leave the same error status and make the same reports.  What `printf` and `vfprintf` append to
standard output is what `vsnprintf` stores in front of its terminator; to the error stream it is
appended behind the reports.

A rendering that is too long for an answer is the one thing that reaches a buffer and not a stream.
-/

namespace StubLibc

open Console (Descriptor Stream)
open Format

namespace CString

/-- A copy into the first `size` bytes of a memory puts down what leaves room for the terminator,
and the terminator; the bytes behind it stay. -/
theorem copyTruncated_window {memory : Bytes} {size : Nat} (hpos : 0 < size)
    (hsize : size ≤ memory.length) (source : Bytes) :
    (copyTruncated (memory.take size) source).buffer ++ memory.drop size =
      source.take (min (size - 1) source.length) ++
        0 :: memory.drop (min (size - 1) source.length + 1) := by
  obtain ⟨room, rfl⟩ := Nat.exists_eq_add_one_of_ne_zero (Nat.ne_of_gt hpos)
  have hwindow : (memory.take (room + 1)).length = room + 1 := List.length_take_of_le hsize
  have hkept : min room source.length + 1 ≤ (memory.take (room + 1)).length := by
    rw [hwindow]
    omega
  rw [copyTruncated, hwindow, Nat.add_sub_cancel, ← List.take_eq_take_min]
  dsimp only
  rw [List.append_assoc, List.cons_append, ← List.drop_append_of_le_length hkept,
    List.take_append_drop]

end CString

namespace Session

/-- The session with bytes behind those on its two descriptors. -/
def appended (out err : Bytes) (session : Session) : Session :=
  { session with
    stdout := { session.stdout with content := session.stdout.content ++ out }
    stderr := { session.stderr with content := session.stderr.content ++ err } }

variable {session : Session}

@[simp]
theorem appended_nil (session : Session) : session.appended [] [] = session := by
  simp [appended]

@[simp]
theorem appended_appended (out err moreOut moreErr : Bytes) (session : Session) :
    (session.appended out err).appended moreOut moreErr =
      session.appended (out ++ moreOut) (err ++ moreErr) := by
  simp [appended]

theorem accept_stdout_of_open (h : session.stdout.room = none) (bytes : Bytes) :
    session.accept .stdout bytes = session.appended bytes [] := by
  simp [accept, output, withOutput, appended, Descriptor.accept, Descriptor.fits, h]

theorem accept_stderr_of_open (h : session.stderr.room = none) (bytes : Bytes) :
    session.accept .stderr bytes = session.appended [] bytes := by
  simp [accept, output, withOutput, appended, Descriptor.accept, Descriptor.fits, h]

/-- The widest field there is, with one byte behind it and a conversion that is read over. -/
def widestFormat : Bytes :=
  Bytes.ofAscii ['%', '2', '1', '4', '7', '4', '8', '3', '6', '4', '7', 'd', ' ', '%', 'f']

/-- A format can render more bytes than an answer can say. -/
theorem exists_rendering?_widestFormat :
    ∃ rendered, rendering? (CString.pointerTo widestFormat) ⟨[.number 1], []⟩ =
      some (rendered, [.f]) ∧ maxField < rendered.length := by
  let widest : Directive := ⟨{}, .fixed maxField, .absent, .plain, .d⟩
  let behind : List Segment := [.literal [0x20], .directive ⟨{}, .absent, .absent, .plain, .f⟩]
  let text := widest.standardText .decimal (some maxField) none 1
  have hformat : CString.bytes? (CString.pointerTo widestFormat) = some widestFormat := by
    decide +kernel
  have hsegments : Segment.ofFormat widestFormat = .directive widest :: behind := by
    decide +kernel
  have hslots : Slot.ofSegments (.directive widest :: behind) = .ok [.int, .double] := rfl
  have hcollect : Slot.collect [.int, .double] ⟨[.number 1], []⟩ = [.int 1, .double 0] := rfl
  have hprecisionMax : ∀ value ∈ Standard.precision none, value ≤ maxField := by
    simp [Standard.precision]
  have hwidth : widest.width.Takes [] (some maxField) := .fixed maxField
  have hprecision : widest.precision.Takes [] none := .absent
  have hword : (Arg.int 1).asUint? = some 1 := rfl
  have hwidest : widest.render ⟨0, [.int 1, .double 0]⟩ = (.ok (.shown text), ⟨1, [.double 0]⟩) :=
    Directive.render_apply_of_radix? rfl hwidth hprecision hword (Nat.le_refl maxField)
      hprecisionMax 0 [.double 0]
  have hbehind : render behind ⟨1, [.double 0]⟩ = ⟨[0x20], .ok [.f], ⟨2, []⟩⟩ := rfl
  have hrender : renderArguments widestFormat ⟨[.number 1], []⟩ = .ok (text ++ [0x20], [.f]) := by
    rw [renderArguments, hsegments, hslots]
    dsimp only
    rw [hcollect, renderFormat, hsegments, render, Segment.render, Cursor.ofArgs, hwidest]
    dsimp only
    rw [hbehind]
    rfl
  have hlength : maxField ≤ text.length := by
    dsimp only [text, Directive.standardText]
    rw [Standard.length_layout]
    exact Nat.le_max_left _ _
  refine ⟨text ++ [0x20], rendering?_of_ok hformat hrender, ?_⟩
  rw [List.length_append]
  exact Nat.lt_succ_of_le hlength

end Session

namespace Destination

variable {destination other : Destination} {rendered target : Bytes} {size : Nat}

/-- What a call renders does not depend on its destination. -/
theorem rendering_eq_rendering (hthere : destination.isMissing = false)
    (hother : other.isMissing = false) (pointer : Pointer) (args : VaList) :
    destination.rendering pointer args = other.rendering pointer args := by
  rw [rendering, rendering, hthere, hother]

/-- A window of a buffer keeps the beginning of a rendering, and a terminator. -/
theorem store_memory_window (hpos : 0 < size) (hsize : size ≤ target.length) (rendered : Bytes) :
    (memory (some target) size).store rendered =
      memory
        (some (rendered.take (min (size - 1) rendered.length) ++
          0 :: target.drop (min (size - 1) rendered.length + 1)))
        size := by
  rw [store, Option.map_some, CString.copyTruncated_window hpos hsize]

/-- A buffer with room for a rendering and a terminator has both at its beginning. -/
theorem store_memory (hroom : rendered.length < size) (hsize : size ≤ target.length) :
    (memory (some target) size).store rendered =
      memory (some (rendered ++ 0 :: target.drop (rendered.length + 1))) size := by
  have hkept : min (size - 1) rendered.length = rendered.length := by omega
  rw [store_memory_window (Nat.zero_lt_of_lt hroom) hsize, hkept, List.take_length]

end Destination

namespace Call

/-- What the entry points leave of one format with its arguments: the same answer, error status and
reports, and the same bytes, on standard output, in a buffer with their terminator or on the error
stream behind the reports. -/
structure Agree (format : Pointer) (args : VaList) (memory : Bytes) (size : Nat) (before : Session)
    (answer : Int) (code : Int32) (diagnostics bytes stored : Bytes) : Prop where
  printf : (printf format args).step before =
    .returned (.number answer) ((before.appended bytes diagnostics).fail code)
  vfprintf_stdout : (vfprintf Stream.stdout.descriptor format args).step before =
    .returned (.number answer) ((before.appended bytes diagnostics).fail code)
  vsnprintf : (vsnprintf (some memory) size format args).step before =
    .returned (.printed answer (some stored)) ((before.appended [] diagnostics).fail code)
  vfprintf_stderr : (vfprintf Stream.stderr.descriptor format args).step before =
    .returned (.number answer) ((before.appended [] (diagnostics ++ bytes)).fail code)

variable {format : Pointer} {args : VaList} {memory : Bytes} {size : Nat} {session : Session}
  {code : Int32} {rendered : Bytes} {skipped : List Conversion}

theorem agree_of_rendering_error
    (h : (Destination.stream .stdout).rendering format args = .error code) :
    Agree format args memory size session (-1) code [] [] memory := by
  have hfails {call : Call} {destination : Destination}
      (hcall : call.formatted? = some (destination, format, args))
      (hthere : destination.isMissing = false) :
      call.step session =
        .returned (destination.reply (-1)) ((session.appended [] []).fail code) := by
    rw [Session.appended_nil]
    refine step_of_rendering_error hcall ?_ session
    exact (Destination.rendering_eq_rendering hthere rfl format args).trans h
  constructor
  case printf | vfprintf_stdout | vsnprintf =>
    rw [hfails rfl rfl]
    rfl
  case vfprintf_stderr =>
    rw [hfails rfl rfl, List.append_nil]
    rfl

theorem agree_of_lt_length (h : Session.rendering? format args = some (rendered, skipped))
    (hlength : maxField < rendered.length) (hroom : rendered.length < size)
    (hsize : size ≤ memory.length) (hstderr : session.stderr.room = none) :
    Agree format args memory size session (-1) Errno.overflow
      (session.lines (Session.skippedRecords skipped)) []
      (rendered ++ 0 :: memory.drop (rendered.length + 1)) := by
  have hfails {call : Call} {destination : Destination}
      (hcall : call.formatted? = some (destination, format, args))
      (hthere : destination.isMissing = false) :
      call.step session = .returned ((destination.store rendered).reply (-1))
        ((session.appended [] (session.lines (Session.skippedRecords skipped))).fail
          Errno.overflow) := by
    have hrendering := (Destination.rendering_eq_ok_iff hthere).mpr h
    rw [← Session.accept_stderr_of_open hstderr]
    exact step_of_lt_length hcall hrendering hlength hstderr
  constructor
  case printf | vfprintf_stdout =>
    rw [hfails rfl rfl]
    rfl
  case vsnprintf =>
    rw [hfails rfl rfl, Destination.store_memory hroom hsize]
    rfl
  case vfprintf_stderr =>
    rw [hfails rfl rfl, List.append_nil]
    rfl

theorem agree_of_length_le (h : Session.rendering? format args = some (rendered, skipped))
    (hlength : rendered.length ≤ maxField) (hroom : rendered.length < size)
    (hsize : size ≤ memory.length) (hstdout : session.stdout.room = none)
    (hstderr : session.stderr.room = none) :
    Agree format args memory size session rendered.length session.errno
      (session.lines (Session.skippedRecords skipped)) rendered
      (rendered ++ 0 :: memory.drop (rendered.length + 1)) := by
  let reports := session.lines (Session.skippedRecords skipped)
  have hprints {call : Call} {destination : Destination}
      (hcall : call.formatted? = some (destination, format, args))
      (hthere : destination.isMissing = false) :
      call.step session = .returned ((destination.store rendered).reply rendered.length)
        (destination.put rendered (session.appended [] reports)) := by
    have hrendering := (Destination.rendering_eq_ok_iff hthere).mpr h
    rw [← Session.accept_stderr_of_open hstderr]
    exact step_of_open hcall hrendering hlength hstdout hstderr
  have hputOut : (Destination.stream .stdout).put rendered (session.appended [] reports) =
      session.appended rendered reports := by
    have hopen : (session.appended [] reports).stdout.room = none := hstdout
    rw [Destination.put, Session.accept_stdout_of_open hopen, Session.appended_appended,
      List.nil_append, List.append_nil]
  have hputErr : (Destination.stream .stderr).put rendered (session.appended [] reports) =
      session.appended [] (reports ++ rendered) := by
    have hopen : (session.appended [] reports).stderr.room = none := hstderr
    rw [Destination.put, Session.accept_stderr_of_open hopen, Session.appended_appended,
      List.nil_append]
  constructor
  case printf | vfprintf_stdout =>
    rw [hprints rfl rfl, hputOut]
    rfl
  case vsnprintf =>
    rw [hprints rfl rfl, Destination.store_memory hroom hsize]
    rfl
  case vfprintf_stderr =>
    rw [hprints rfl rfl, hputErr]
    rfl

/-- With open descriptors the entry points of formatted output agree.  An answer is the length of
the rendering, whose bytes are then printed and stored, with a terminator behind them where they are
stored.  A failure prints nothing, and it stores nothing either, not even a terminator, a rendering
that is too long for an answer excepted, which is stored all the same. -/
theorem entryPoints_agree (format : Pointer) (args : VaList) {memory : Bytes} {size : Nat}
    (hsize : size ≤ memory.length)
    (hroom : ∀ rendered skipped, Session.rendering? format args = some (rendered, skipped) →
      rendered.length < size)
    {session : Session} (hstdout : session.stdout.room = none)
    (hstderr : session.stderr.room = none) :
    ∃ answer code diagnostics bytes stored,
      Agree format args memory size session answer code diagnostics bytes stored ∧
        (0 ≤ answer →
          (∃ skipped, Session.rendering? format args = some (bytes, skipped)) ∧
            answer = bytes.length ∧ stored = bytes ++ 0 :: memory.drop (bytes.length + 1)) ∧
        (answer < 0 → answer = -1 ∧ bytes = [] ∧
          (Session.rendering? format args = none ∧ stored = memory ∨
            ∃ rendered skipped, Session.rendering? format args = some (rendered, skipped) ∧
              maxField < rendered.length ∧ code = Errno.overflow ∧
              stored = rendered ++ 0 :: memory.drop (rendered.length + 1))) := by
  have hstream : (Destination.stream .stdout).isMissing = false := rfl
  rcases hrendering : (Destination.stream .stdout).rendering format args with
    code | ⟨rendered, skipped⟩
  · have hnone : Session.rendering? format args = none := by
      refine Option.eq_none_iff_forall_ne_some.mpr fun result hresult ↦ ?_
      have hok := (Destination.rendering_eq_ok_iff hstream).mpr hresult
      cases hrendering.symm.trans hok
    exact ⟨-1, code, [], [], memory, agree_of_rendering_error hrendering,
      fun h ↦ absurd h (by decide), fun _ ↦ ⟨rfl, rfl, .inl ⟨hnone, rfl⟩⟩⟩
  · have hrenders := (Destination.rendering_eq_ok_iff hstream).mp hrendering
    have hfits := hroom rendered skipped hrenders
    by_cases hlength : maxField < rendered.length
    · exact ⟨_, _, _, _, _, agree_of_lt_length hrenders hlength hfits hsize hstderr,
        fun h ↦ absurd h (by decide),
        fun _ ↦ ⟨rfl, rfl, .inr ⟨rendered, skipped, hrenders, hlength, rfl, rfl⟩⟩⟩
    · have hlength := Nat.le_of_not_lt hlength
      exact ⟨_, _, _, _, _, agree_of_length_le hrenders hlength hfits hsize hstdout hstderr,
        fun _ ↦ ⟨⟨skipped, hrenders⟩, rfl, rfl⟩,
        fun h ↦ absurd h (Int.not_lt.mpr (Int.natCast_nonneg _))⟩

/-- Two bytes around a conversion that is read over, and a buffer of five. -/
theorem entryPoints_agree_skipped :
    let format := CString.pointerTo (Bytes.ofAscii ['h', '%', 'f', 'i'])
    let printed := Bytes.ofAscii ['h', 'i']
    let memory := Bytes.ofAscii ['w', 'o', 'r', 'l', 'd']
    let before : Session := { errno := Errno.io }
    ∃ code diagnostics, Agree format ⟨[], []⟩ memory 5 before 2 code diagnostics printed
      (printed ++ 0 :: Bytes.ofAscii ['l', 'd']) := by
  intro format printed memory before
  have hrendering : Session.rendering? format ⟨[], []⟩ = some (printed, [.f]) := by
    decide +kernel
  have hsize : 5 ≤ memory.length := by decide
  have hroom : ∀ rendered skipped, Session.rendering? format ⟨[], []⟩ = some (rendered, skipped) →
      rendered.length < 5 := by
    intro rendered skipped h
    cases hrendering.symm.trans h
    decide
  have hopen : before.stdout.room = none ∧ before.stderr.room = none := ⟨rfl, rfl⟩
  obtain ⟨answer, code, diagnostics, bytes, stored, hagree, hanswer, hfailure⟩ :=
    entryPoints_agree format ⟨[], []⟩ hsize hroom hopen.1 hopen.2
  have hpositive : 0 ≤ answer := by
    apply Int.not_lt.mp
    intro hnegative
    rcases (hfailure hnegative).2.2 with ⟨hnone, -⟩ | ⟨rendered, skipped, h, hlong, -⟩
    · cases hrendering.symm.trans hnone
    · cases hrendering.symm.trans h
      exact absurd hlong (by decide)
  obtain ⟨⟨skipped, hbytes⟩, rfl, rfl⟩ := hanswer hpositive
  cases hrendering.symm.trans hbytes
  exact ⟨code, diagnostics, hagree⟩

/-- What is stored is not always what is printed and a terminator: without a format there is no
terminator, and a rendering that is too long for an answer is stored and not printed. -/
theorem entryPoints_agree_exceptions :
    let before : Session := {}
    let short := Bytes.ofAscii ['a', 'b', 'c']
    let widest := CString.pointerTo Session.widestFormat
    let args : VaList := ⟨[.number 1], []⟩
    (Agree none args short 3 before (-1) Errno.invalid [] [] short ∧ 0 ∉ short) ∧
      ∃ rendered memory diagnostics,
        Session.rendering? widest args = some (rendered, [.f]) ∧ rendered ≠ [] ∧
          rendered.length < memory.length ∧
          Agree widest args memory memory.length before (-1) Errno.overflow diagnostics []
            (rendered ++ [0]) := by
  intro before short widest args
  refine ⟨⟨agree_of_rendering_error rfl, by decide⟩, ?_⟩
  obtain ⟨rendered, hrendering, hlength⟩ := Session.exists_rendering?_widestFormat
  let memory : Bytes := List.replicate (rendered.length + 1) 0xAA
  have hmemory : memory.length = rendered.length + 1 := List.length_replicate
  have hroom : rendered.length < memory.length := hmemory ▸ Nat.lt_succ_self _
  have hagree : Agree widest args memory memory.length before (-1) Errno.overflow _ [] _ :=
    agree_of_lt_length hrendering hlength hroom (Nat.le_refl _) rfl
  rw [← hmemory, List.drop_length] at hagree
  refine ⟨rendered, memory, _, hrendering, ?_, hroom, hagree⟩
  rintro rfl
  exact absurd hlength (by decide)

end Call

end StubLibc
