import StubLibc.Proofs.Session.Reports

/-!
# The calls that format as one call

`printf`, `vfprintf` and `vsnprintf` differ in their destination alone, a stream or a buffer.  Each
of them renders its format or fails without a trace but the error status, then reports what it read
over, and then delivers.  `Destination.printVia` says that once for all three, with the way in which
reports are dealt with as a parameter; the calls themselves write them to the error stream.
-/

namespace StubLibc

open Console (Descriptor Stream)
open Diagnostic (Record)
open Format

/-- Where a call puts what it renders. -/
inductive Destination where
  | stream (stream : Stream)
  /-- The first `size` bytes of a buffer. -/
  | memory (buffer : Option Bytes) (size : Nat)
  deriving DecidableEq, Repr

namespace Destination

/-- Output is asked for and there is no buffer for it. -/
def isMissing : Destination → Bool
  | stream _ => false
  | memory buffer size => buffer.isNone && decide (0 < size)

/-- The destination with a rendering stored in its buffer; a stream has none. -/
def store (rendered : Bytes) : Destination → Destination
  | stream target => stream target
  | memory buffer size =>
    memory
      (buffer.map fun memory ↦
        (CString.copyTruncated (memory.take size) rendered).buffer ++ memory.drop size)
      size

/-- A number as the reply of a call, with the buffer afterwards. -/
def reply (answer : Int) : Destination → Reply
  | stream _ => .number answer
  | memory buffer _ => .printed answer buffer

/-- What a call renders, or the error status with which it fails before it prints anything. -/
def rendering (pointer : Pointer) (args : VaList) (destination : Destination) :
    Except Int32 (Bytes × List Conversion) :=
  match CString.bytes? pointer with
  | none => .error Errno.invalid
  | some format =>
    if destination.isMissing then .error Errno.invalid
    else (renderArguments format args).mapError Session.formatErrno

/-- What is left of a call after its reports: its answer and the session that it leaves. -/
def deliver (rendered : Bytes) (session : Session) (destination : Destination) : Int × Session :=
  if maxField < rendered.length then (-1, session.fail Errno.overflow)
  else
    match destination with
    | stream target =>
      if (session.output target).Refuses rendered then (-1, session.fail Errno.io)
      else (Int.ofNat rendered.length, session.accept target rendered)
    | memory _ _ => (Int.ofNat rendered.length, session)

/-- The session after a rendering reached its destination; a buffer is not part of it. -/
def put (rendered : Bytes) (session : Session) : Destination → Session
  | stream target => session.accept target rendered
  | memory _ _ => session

/-- The destination accepts any number of bytes. -/
def IsOpen (session : Session) : Destination → Prop
  | stream target => (session.output target).room = none
  | memory _ _ => True

/-- The destination has no room for any byte of a rendering. -/
def Refuses (rendered : Bytes) (session : Session) : Destination → Prop
  | stream target => (session.output target).Refuses rendered
  | memory _ _ => False

/-- A call that formats, with its records dealt with by `emit`. -/
def printVia (emit : Record → Session → Session) (pointer : Pointer) (args : VaList)
    (session : Session) (destination : Destination) : Outcome :=
  match destination.rendering pointer args with
  | .error code => .returned (destination.reply (-1)) (session.fail code)
  | .ok (rendered, skipped) =>
    let (answer, after) :=
      destination.deliver rendered (session.announceVia emit (Session.skippedRecords skipped))
    .returned ((destination.store rendered).reply answer) after

variable {pointer : Pointer} {args : VaList} {destination : Destination} {format : Bytes}
  {rendered : Bytes} {skipped : List Conversion} {stream : Stream} {code : Int32}
  {session : Session}

/-! ## Renderings -/

theorem rendering_of_null (h : CString.bytes? pointer = none) :
    destination.rendering pointer args = .error Errno.invalid := by
  rw [rendering, h]

theorem rendering_of_isMissing (h : destination.isMissing = true) :
    destination.rendering pointer args = .error Errno.invalid := by
  rw [rendering]
  cases CString.bytes? pointer with
  | none => rfl
  | some format => exact if_pos h

theorem rendering_of_format (hthere : destination.isMissing = false)
    (hformat : CString.bytes? pointer = some format) :
    destination.rendering pointer args =
      (renderArguments format args).mapError Session.formatErrno := by
  rw [rendering, hformat, hthere]
  rfl

/-- A call that has a destination renders what its format and its arguments do. -/
theorem rendering_eq_ok_iff (hthere : destination.isMissing = false)
    {result : Bytes × List Conversion} :
    destination.rendering pointer args = .ok result ↔
      Session.rendering? pointer args = some result := by
  cases hformat : CString.bytes? pointer with
  | none =>
    rw [rendering_of_null hformat, Session.rendering?_of_null hformat]
    exact iff_of_false (fun h ↦ nomatch h) (fun h ↦ nomatch h)
  | some format =>
    rw [rendering_of_format hthere hformat]
    cases hrender : renderArguments format args with
    | error error =>
      rw [Session.rendering?_of_error hformat hrender]
      exact iff_of_false (fun h ↦ nomatch h) (fun h ↦ nomatch h)
    | ok found =>
      have hmap : (Except.ok found : Except FormatError _).mapError Session.formatErrno =
          .ok found := rfl
      rw [Session.rendering?_of_ok hformat hrender, hmap, Option.some.injEq, Except.ok.injEq]

/-- There are two error statuses for a call that fails before it prints. -/
theorem code_of_rendering (h : destination.rendering pointer args = .error code) :
    code = Errno.overflow ∨ code = Errno.invalid := by
  unfold rendering at h
  split at h
  · cases h
    exact .inr rfl
  · split at h
    · cases h
      exact .inr rfl
    · next format _ _ =>
      cases hrender : renderArguments format args with
      | ok result =>
        rw [hrender] at h
        cases h
      | error error =>
        rw [hrender] at h
        cases h
        cases error with
        | fieldOverflow value => exact .inl rfl
        | argument fault => exact .inr rfl
        | longDouble conversion => exact .inr rfl

/-! ## Deliveries -/

theorem deliver_of_lt_length (h : maxField < rendered.length) (session : Session)
    (destination : Destination) :
    destination.deliver rendered session = (-1, session.fail Errno.overflow) := by
  unfold deliver
  exact if_pos h

theorem deliver_of_refuses (hlength : rendered.length ≤ maxField)
    (h : destination.Refuses rendered session) :
    destination.deliver rendered session = (-1, session.fail Errno.io) := by
  unfold deliver
  rw [if_neg (Nat.not_lt.mpr hlength)]
  cases destination with
  | stream target => exact if_pos h
  | memory buffer size => exact h.elim

theorem deliver_of_not_refuses (hlength : rendered.length ≤ maxField)
    (h : ¬ destination.Refuses rendered session) :
    destination.deliver rendered session =
      (Int.ofNat rendered.length, destination.put rendered session) := by
  unfold deliver
  rw [if_neg (Nat.not_lt.mpr hlength)]
  cases destination with
  | stream target => exact if_neg h
  | memory buffer size => rfl

theorem IsOpen.not_refuses (h : destination.IsOpen session) (rendered : Bytes) :
    ¬ destination.Refuses rendered session := by
  cases destination with
  | stream target => exact Descriptor.not_refuses_of_open h rendered
  | memory buffer size => exact id

/-! ## The calls -/

theorem printVia_of_error (emit : Record → Session → Session)
    (h : destination.rendering pointer args = .error code) (session : Session) :
    destination.printVia emit pointer args session =
      .returned (destination.reply (-1)) (session.fail code) := by
  rw [printVia, h]

theorem printVia_of_ok (emit : Record → Session → Session)
    (h : destination.rendering pointer args = .ok (rendered, skipped)) (session : Session) :
    destination.printVia emit pointer args session =
      let (answer, after) :=
        destination.deliver rendered (session.announceVia emit (Session.skippedRecords skipped))
      .returned ((destination.store rendered).reply answer) after := by
  rw [printVia, h]

theorem printVia_stream (hstream : stream.isWritable = true) (pointer : Pointer) (args : VaList)
    (session : Session) :
    (Destination.stream stream).printVia Session.diagnose pointer args session =
      Outcome.ofNumber (session.printTo stream pointer args) := by
  have hprints := Session.prints_printTo hstream pointer args session
  generalize session.printTo stream pointer args = outcome at hprints ⊢
  cases hprints with
  | null hformat =>
    rw [printVia_of_error _ (rendering_of_null hformat)]
    rfl
  | @failed format error hformat herror =>
    have hrendering : (Destination.stream stream).rendering pointer args =
        .error (Session.formatErrno error) := by
      rw [rendering_of_format rfl hformat, herror]
      rfl
    rw [printVia_of_error _ hrendering]
    rfl
  | tooLong hrendering hlength =>
    rw [printVia_of_ok _ ((rendering_eq_ok_iff rfl).mpr hrendering), deliver_of_lt_length hlength,
      Session.report_eq_announce]
    rfl
  | @refused rendered skipped hrendering hlength hrefuses =>
    rw [Session.report_eq_announce] at hrefuses
    have hfull : (Destination.stream stream).Refuses rendered
        (session.announce (Session.skippedRecords skipped)) := hrefuses
    rw [printVia_of_ok _ ((rendering_eq_ok_iff rfl).mpr hrendering), ← Session.announce,
      deliver_of_refuses hlength hfull, Session.report_eq_announce]
    rfl
  | @written rendered skipped hrendering hlength htakes =>
    rw [Session.report_eq_announce] at htakes
    have hspace : ¬ (Destination.stream stream).Refuses rendered
        (session.announce (Session.skippedRecords skipped)) := htakes
    rw [printVia_of_ok _ ((rendering_eq_ok_iff rfl).mpr hrendering), ← Session.announce,
      deliver_of_not_refuses hlength hspace, Session.report_eq_announce]
    rfl

theorem printVia_memory (buffer : Option Bytes) (size : Nat) (pointer : Pointer) (args : VaList)
    (session : Session) :
    (Destination.memory buffer size).printVia Session.diagnose pointer args session =
      let (answer, buffer, after) := session.printInto buffer size pointer args
      .returned (.printed answer buffer) after := by
  rw [Session.printInto]
  cases hformat : CString.bytes? pointer with
  | none =>
    rw [printVia_of_error _ (rendering_of_null hformat)]
    rfl
  | some format =>
    dsimp only
    by_cases hmissing : buffer.isNone = true ∧ size > 0
    · have hbuffer : (Destination.memory buffer size).isMissing = true :=
        Bool.and_eq_true_iff.mpr ⟨hmissing.1, decide_eq_true hmissing.2⟩
      rw [printVia_of_error _ (rendering_of_isMissing hbuffer), if_pos hmissing]
      rfl
    · have hbuffer : (Destination.memory buffer size).isMissing = false := by
        simpa [isMissing] using hmissing
      rw [if_neg hmissing, Session.renderCall_eq]
      cases hrender : renderArguments format args with
      | error error =>
        have hrendering : (Destination.memory buffer size).rendering pointer args =
            .error (Session.formatErrno error) := by
          rw [rendering_of_format hbuffer hformat, hrender]
          rfl
        rw [printVia_of_error _ hrendering]
        rfl
      | ok result =>
        obtain ⟨rendered, skipped⟩ := result
        have hrendering := Session.rendering?_of_ok hformat hrender
        rw [printVia_of_ok _ ((rendering_eq_ok_iff hbuffer).mpr hrendering), ← Session.announce,
          Session.reported, Session.report_eq_announce]
        dsimp only
        rw [Session.answerLength]
        by_cases hlength : maxField < rendered.length
        · rw [deliver_of_lt_length hlength, if_pos hlength]
          rfl
        · rw [deliver_of_not_refuses (Nat.le_of_not_lt hlength) id, if_neg hlength]
          rfl

end Destination

namespace Call

/-- The destination, the format and the arguments of a call of the `printf` family. -/
def formatted? : Call → Option (Destination × Pointer × VaList)
  | printf format args => some (.stream .stdout, format, args)
  | vfprintf handle format args =>
    (Stream.outputOfHandle? handle).map fun stream ↦ (.stream stream, format, args)
  | vsnprintf buffer size format args => some (.memory buffer size, format, args)
  | _ => none

variable {call : Call} {destination : Destination} {pointer : Pointer} {args : VaList}

/-- A call of the family does what is said of all of them, and writes its reports to the error
stream. -/
theorem step_of_formatted? (h : call.formatted? = some (destination, pointer, args))
    (session : Session) :
    call.step session = destination.printVia Session.diagnose pointer args session := by
  cases call with
  | printf format args =>
    cases h
    have hstdout : Stream.stdout.isWritable = true := rfl
    exact (Destination.printVia_stream hstdout pointer args session).symm
  | vfprintf handle format args =>
    obtain ⟨stream, hfound, heq⟩ := Option.map_eq_some_iff.mp h
    cases heq
    have hstream := (Option.filter_eq_some_iff.mp hfound).2
    rw [step, hfound, Destination.printVia_stream hstream]
  | vsnprintf buffer size format args =>
    cases h
    exact (Destination.printVia_memory buffer size pointer args session).symm
  | _ => cases h

theorem isOpen_of_formatted? (h : call.formatted? = some (destination, pointer, args))
    {session : Session} (hstdout : session.stdout.room = none)
    (hstderr : session.stderr.room = none) : destination.IsOpen session := by
  cases call with
  | printf format args =>
    cases h
    exact hstdout
  | vfprintf handle format args =>
    obtain ⟨stream, hfound, heq⟩ := Option.map_eq_some_iff.mp h
    cases heq
    have hstream := (Option.filter_eq_some_iff.mp hfound).2
    cases stream with
    | stdin => cases hstream
    | stdout => exact hstdout
    | stderr => exact hstderr
  | vsnprintf buffer size format args =>
    cases h
    exact trivial
  | _ => cases h

/-! ## Open descriptors -/

variable {session : Session} {rendered : Bytes} {skipped : List Conversion} {code : Int32}

theorem step_of_rendering_error (h : call.formatted? = some (destination, pointer, args))
    (herror : destination.rendering pointer args = .error code) (session : Session) :
    call.step session = .returned (destination.reply (-1)) (session.fail code) := by
  rw [step_of_formatted? h, Destination.printVia_of_error _ herror]

theorem step_of_lt_length (h : call.formatted? = some (destination, pointer, args))
    (hrendering : destination.rendering pointer args = .ok (rendered, skipped))
    (hlength : maxField < rendered.length) (hstderr : session.stderr.room = none) :
    call.step session =
      .returned ((destination.store rendered).reply (-1))
        ((session.accept .stderr (session.lines (Session.skippedRecords skipped))).fail
          Errno.overflow) := by
  have hkept := Session.not_losesOneOf_of_open hstderr (Session.skippedRecords skipped)
  rw [step_of_formatted? h, Destination.printVia_of_ok _ hrendering,
    Destination.deliver_of_lt_length hlength, ← Session.announce,
    Session.announce_of_not_losesOneOf hkept]

/-- With open descriptors a call leaves its reports and then its rendering. -/
theorem step_of_open (h : call.formatted? = some (destination, pointer, args))
    (hrendering : destination.rendering pointer args = .ok (rendered, skipped))
    (hlength : rendered.length ≤ maxField) (hstdout : session.stdout.room = none)
    (hstderr : session.stderr.room = none) :
    call.step session =
      .returned ((destination.store rendered).reply rendered.length)
        (destination.put rendered
          (session.accept .stderr (session.lines (Session.skippedRecords skipped)))) := by
  have hkept := Session.not_losesOneOf_of_open hstderr (Session.skippedRecords skipped)
  have hopen : destination.IsOpen
      (session.accept .stderr (session.lines (Session.skippedRecords skipped))) :=
    isOpen_of_formatted? h hstdout (Descriptor.room_accept_of_open hstderr _)
  rw [step_of_formatted? h, Destination.printVia_of_ok _ hrendering, ← Session.announce,
    Session.announce_of_not_losesOneOf hkept,
    Destination.deliver_of_not_refuses hlength (hopen.not_refuses rendered)]
  rfl

end Call

end StubLibc
