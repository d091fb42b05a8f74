import StubLibc.Proofs.Session.Streams
import StubLibc.Session.Call

/-!
# Printing to a stream

What `printf` and `vfprintf` do, outcome by outcome, and when their answer may be believed.  A
call that answers a length has rendered that many bytes; it has also written them, except where
the stream takes some of the bytes and then no more.  Nothing tells such a short write from a
whole one.
-/

namespace StubLibc

open Console (Descriptor Stream)
open Diagnostic (Record)
open Format

namespace Format

/-- What a format renders from a C argument list: the bytes, and the conversions read over. -/
def renderArguments (format : Bytes) (args : VaList) :
    Except FormatError (Bytes × List Conversion) :=
  match Slot.ofSegments (Segment.ofFormat format) with
  | .error error => .error error
  | .ok slots => renderFormat format (Slot.collect slots args)

end Format

namespace Session

/-- Says which conversions were read over. -/
def report (skipped : List Conversion) (session : Session) : Session :=
  skipped.foldl
    (fun session conversion ↦ session.diagnose (Record.unknownSpecifier conversion.byte)) session

/-- The reply to a rendering, and the session after its reports; a failure reports nothing. -/
def reported (session : Session) :
    Except FormatError (Bytes × List Conversion) → Except FormatError Bytes × Session
  | .error error => (.error error, session)
  | .ok (rendered, skipped) => (.ok rendered, session.report skipped)

/-! ## Rendering -/

theorem renderCollected_eq (format : Bytes) (args : List Arg) (session : Session) :
    session.renderCollected (Segment.ofFormat format) args =
      session.reported (renderFormat format args) := by
  unfold renderCollected renderFormat
  dsimp only
  cases (render (Segment.ofFormat format) (Cursor.ofArgs args)).result with
  | error error => rfl
  | ok skipped => rfl

theorem renderCall_eq (format : Bytes) (args : VaList) (session : Session) :
    session.renderCall format args = session.reported (renderArguments format args) := by
  unfold renderCall renderArguments
  dsimp only
  cases Slot.ofSegments (Segment.ofFormat format) with
  | error error => rfl
  | ok slots => exact renderCollected_eq format (Slot.collect slots args) session

variable {format : Bytes} {args : VaList} {error : FormatError} {rendered : Bytes}
  {skipped : List Conversion}

/-- What a format pointer and its arguments render, if they do. -/
def rendering? (pointer : Pointer) (args : VaList) : Option (Bytes × List Conversion) :=
  (CString.bytes? pointer).bind fun format ↦ (renderArguments format args).toOption

variable {pointer : Pointer}

theorem rendering?_of_null (hformat : CString.bytes? pointer = none) :
    rendering? pointer args = none := by
  rw [rendering?, hformat, Option.bind_none]

theorem rendering?_of_error (hformat : CString.bytes? pointer = some format)
    (herror : renderArguments format args = .error error) : rendering? pointer args = none := by
  rw [rendering?, hformat, Option.bind_some, herror]
  rfl

theorem rendering?_of_ok {rendering : Bytes × List Conversion}
    (hformat : CString.bytes? pointer = some format)
    (hok : renderArguments format args = .ok rendering) :
    rendering? pointer args = some rendering := by
  rw [rendering?, hformat, Option.bind_some, hok]
  rfl

theorem exists_format_of_rendering? {rendering : Bytes × List Conversion}
    (h : rendering? pointer args = some rendering) :
    ∃ format, CString.bytes? pointer = some format ∧
      renderArguments format args = .ok rendering := by
  obtain ⟨format, hformat, hrender⟩ := Option.bind_eq_some_iff.mp h
  refine ⟨format, hformat, ?_⟩
  cases hresult : renderArguments format args with
  | error error =>
    rw [hresult] at hrender
    cases hrender
  | ok found =>
    rw [hresult] at hrender
    cases hrender
    rfl

/-! ## The outcomes of a call -/

/-- What a call that prints to a stream answers and leaves behind, outcome by outcome. -/
inductive Prints (stream : Stream) (pointer : Pointer) (args : VaList) (before : Session) :
    Int × Session → Prop
  /-- There is no format. -/
  | null (hformat : CString.bytes? pointer = none) :
    Prints stream pointer args before (-1, before.fail Errno.invalid)
  /-- The format fails; nothing is said of it. -/
  | failed {format : Bytes} {error : FormatError} (hformat : CString.bytes? pointer = some format)
    (herror : renderArguments format args = .error error) :
    Prints stream pointer args before (-1, before.fail (formatErrno error))
  /-- The rendering is longer than an answer can say. -/
  | tooLong {rendered : Bytes} {skipped : List Conversion}
    (hrendering : rendering? pointer args = some (rendered, skipped))
    (hlength : maxField < rendered.length) :
    Prints stream pointer args before (-1, (before.report skipped).fail Errno.overflow)
  /-- The stream takes none of the rendering. -/
  | refused {rendered : Bytes} {skipped : List Conversion}
    (hrendering : rendering? pointer args = some (rendered, skipped))
    (hlength : rendered.length ≤ maxField)
    (hrefuses : ((before.report skipped).output stream).Refuses rendered) :
    Prints stream pointer args before (-1, (before.report skipped).fail Errno.io)
  /-- The stream takes some of the rendering or all of it. -/
  | written {rendered : Bytes} {skipped : List Conversion}
    (hrendering : rendering? pointer args = some (rendered, skipped))
    (hlength : rendered.length ≤ maxField)
    (htakes : ¬ ((before.report skipped).output stream).Refuses rendered) :
    Prints stream pointer args before
      (Int.ofNat rendered.length, (before.report skipped).accept stream rendered)

variable {stream : Stream}

/-- What is left of a call once its rendering has a length that can be answered. -/
theorem printTo_of_length_le (h : rendering? pointer args = some (rendered, skipped))
    (hlength : rendered.length ≤ maxField) (session : Session) :
    session.printTo stream pointer args =
      let (written, session) := (session.report skipped).writeStream stream rendered
      if written < 0 then (-1, session) else (Int.ofNat rendered.length, session) := by
  obtain ⟨format, hformat, hrender⟩ := exists_format_of_rendering? h
  rw [printTo, hformat]
  dsimp only
  rw [renderCall_eq, hrender, reported]
  dsimp only
  rw [answerLength, if_neg (Nat.not_lt.mpr hlength)]
  rfl

theorem printTo_of_lt_length (h : rendering? pointer args = some (rendered, skipped))
    (hlength : maxField < rendered.length) (session : Session) :
    session.printTo stream pointer args =
      (-1, (session.report skipped).fail Errno.overflow) := by
  obtain ⟨format, hformat, hrender⟩ := exists_format_of_rendering? h
  rw [printTo, hformat]
  dsimp only
  rw [renderCall_eq, hrender, reported]
  dsimp only
  rw [answerLength, if_pos hlength]
  rfl

theorem printTo_of_refuses (hstream : stream.isWritable = true)
    (h : rendering? pointer args = some (rendered, skipped))
    (hlength : rendered.length ≤ maxField) {session : Session}
    (hrefuses : ((session.report skipped).output stream).Refuses rendered) :
    session.printTo stream pointer args = (-1, (session.report skipped).fail Errno.io) := by
  rw [printTo_of_length_le h hlength, writeStream_of_refuses hstream hrefuses]
  rfl

/-- The length is answered for whatever the stream took. -/
theorem printTo_of_not_refuses (hstream : stream.isWritable = true)
    (h : rendering? pointer args = some (rendered, skipped))
    (hlength : rendered.length ≤ maxField) {session : Session}
    (htakes : ¬ ((session.report skipped).output stream).Refuses rendered) :
    session.printTo stream pointer args =
      (Int.ofNat rendered.length, (session.report skipped).accept stream rendered) := by
  rw [printTo_of_length_le h hlength, writeStream_of_not_refuses hstream htakes]
  rfl

theorem prints_of_rendering? (hstream : stream.isWritable = true)
    (h : rendering? pointer args = some (rendered, skipped)) (session : Session) :
    Prints stream pointer args session (session.printTo stream pointer args) := by
  by_cases hlength : rendered.length ≤ maxField
  case neg =>
    have hlong := Nat.lt_of_not_le hlength
    rw [printTo_of_lt_length h hlong]
    exact .tooLong h hlong
  case pos =>
    by_cases hrefuses : ((session.report skipped).output stream).Refuses rendered
    · rw [printTo_of_refuses hstream h hlength hrefuses]
      exact .refused h hlength hrefuses
    · rw [printTo_of_not_refuses hstream h hlength hrefuses]
      exact .written h hlength hrefuses

/-- Every call that prints to a writable stream has one of the outcomes. -/
theorem prints_printTo (hstream : stream.isWritable = true) (pointer : Pointer) (args : VaList)
    (session : Session) :
    Prints stream pointer args session (session.printTo stream pointer args) := by
  cases hformat : CString.bytes? pointer with
  | none =>
    have hprint : session.printTo stream pointer args = (-1, session.fail Errno.invalid) := by
      rw [printTo, hformat]
    rw [hprint]
    exact .null hformat
  | some format =>
    cases hrender : renderArguments format args with
    | error error =>
      have hprint : session.printTo stream pointer args =
          (-1, session.fail (formatErrno error)) := by
        rw [printTo, hformat]
        dsimp only
        rw [renderCall_eq, hrender]
        rfl
      rw [hprint]
      exact .failed hformat hrender
    | ok rendering =>
      exact prints_of_rendering? hstream (rendering?_of_ok hformat hrender) session

/-! ## Answers and deliveries -/

/-- Reports leave standard output alone. -/
theorem stdout_diagnose (record : Record) (session : Session) :
    (session.diagnose record).stdout = session.stdout := by
  unfold diagnose
  by_cases hrefuses : (session.output .stderr).Refuses (record.bytes session.settings.log)
  · rw [writeStream_of_refuses rfl hrefuses]
    rfl
  · rw [writeStream_of_not_refuses rfl hrefuses]
    rfl

/-- The stream as the rendering of a call finds it: behind the call's own reports where these go
to the same stream. -/
def found (stream : Stream) (skipped : List Conversion) (session : Session) : Descriptor :=
  match stream with
  | .stdin => .closed
  | .stdout => session.stdout
  | .stderr => (session.report skipped).stderr

theorem output_report (stream : Stream) (skipped : List Conversion) (session : Session) :
    (session.report skipped).output stream = session.found stream skipped := by
  cases stream with
  | stdin => rfl
  | stderr => rfl
  | stdout =>
    induction skipped generalizing session with
    | nil => rfl
    | cons conversion rest ih =>
      calc
        (session.report (conversion :: rest)).output .stdout =
            (session.diagnose (Record.unknownSpecifier conversion.byte)).stdout := ih _
        _ = session.stdout := stdout_diagnose _ session

/-- A call that answers a length has put its whole rendering, of that length, on the stream. -/
def AnswersTruly (stream : Stream) (pointer : Pointer) (args : VaList) (before : Session)
    (answer : Int) (after : Session) : Prop :=
  0 ≤ answer →
    ∃ rendered skipped, rendering? pointer args = some (rendered, skipped) ∧
      answer = rendered.length ∧
      (after.output stream).content = (before.found stream skipped).content ++ rendered

/-- The stream takes the beginning of a rendering, and not all of it. -/
def IsCutShort (stream : Stream) (pointer : Pointer) (args : VaList) (before : Session) : Prop :=
  ∃ rendered skipped, rendering? pointer args = some (rendered, skipped) ∧
    rendered.length ≤ maxField ∧ (before.found stream skipped).CutsShort rendered

variable {before after : Session} {answer : Int}

/-- Failure is answered by `-1`. -/
theorem Prints.neg_one_le (h : Prints stream pointer args before (answer, after)) :
    -1 ≤ answer := by
  cases h with
  | null _ => exact Int.le_refl _
  | failed _ _ => exact Int.le_refl _
  | tooLong _ _ => exact Int.le_refl _
  | refused _ _ _ => exact Int.le_refl _
  | written _ _ _ => exact Int.le_trans (by decide) (Int.natCast_nonneg _)

/-- Failure claims nothing. -/
theorem answersTruly_neg_one :
    before.AnswersTruly stream pointer args (-1) after := by
  intro hanswer
  exact absurd hanswer (by decide)

theorem isCutShort_iff (hrendering : rendering? pointer args = some (rendered, skipped)) :
    before.IsCutShort stream pointer args ↔
      rendered.length ≤ maxField ∧ (before.found stream skipped).CutsShort rendered := by
  constructor
  · rintro ⟨rendered', skipped', hrendering', hcut⟩
    rw [hrendering] at hrendering'
    cases hrendering'
    exact hcut
  · intro hcut
    exact ⟨rendered, skipped, hrendering, hcut⟩

theorem not_isCutShort_of_none (h : rendering? pointer args = none) :
    ¬ before.IsCutShort stream pointer args := by
  rintro ⟨rendered, skipped, hrendering, _⟩
  rw [h] at hrendering
  cases hrendering

/-- A length is the true answer when the stream has taken as many bytes. -/
theorem answersTruly_length_iff (hstream : stream.isWritable = true)
    (hrendering : rendering? pointer args = some (rendered, skipped)) :
    before.AnswersTruly stream pointer args (Int.ofNat rendered.length)
        ((before.report skipped).accept stream rendered) ↔
      (before.found stream skipped).fits rendered = rendered.length := by
  have hcontent : (((before.report skipped).accept stream rendered).output stream).content =
      (before.found stream skipped).content ++
        rendered.take ((before.found stream skipped).fits rendered) := by
    rw [output_accept hstream, output_report]
    rfl
  constructor
  · intro htruly
    obtain ⟨rendered', skipped', hrendering', -, htaken⟩ := htruly (Int.natCast_nonneg _)
    rw [hrendering] at hrendering'
    cases hrendering'
    rw [hcontent] at htaken
    have hlength := congrArg List.length (List.append_cancel_left htaken)
    rw [List.length_take, Nat.min_eq_left (Descriptor.fits_le_length _ _)] at hlength
    exact hlength
  · intro hfits _
    refine ⟨rendered, skipped, hrendering, rfl, ?_⟩
    rw [hcontent, hfits, List.take_length]

/-- The exact condition: a call's answer is true unless its rendering is cut short. -/
theorem Prints.answersTruly_iff (hstream : stream.isWritable = true)
    (h : Prints stream pointer args before (answer, after)) :
    before.AnswersTruly stream pointer args answer after ↔
      ¬ before.IsCutShort stream pointer args := by
  cases h with
  | null hformat =>
    exact iff_of_true answersTruly_neg_one (not_isCutShort_of_none (rendering?_of_null hformat))
  | failed hformat herror =>
    have hnone := rendering?_of_error hformat herror
    exact iff_of_true answersTruly_neg_one (not_isCutShort_of_none hnone)
  | tooLong hrendering hlength =>
    apply iff_of_true answersTruly_neg_one
    rw [isCutShort_iff hrendering]
    exact fun hcut ↦ Nat.not_le.mpr hlength hcut.1
  | refused hrendering hlength hrefuses =>
    rw [output_report] at hrefuses
    apply iff_of_true answersTruly_neg_one
    rw [isCutShort_iff hrendering]
    exact fun hcut ↦ hrefuses.not_cutsShort hcut.2
  | written hrendering hlength htakes =>
    rw [output_report] at htakes
    rw [answersTruly_length_iff hstream hrendering, isCutShort_iff hrendering,
      Descriptor.fits_eq_length_iff]
    constructor
    · exact fun htaken hcut ↦ htaken.2 hcut.2
    · exact fun hcut ↦ ⟨htakes, fun hshort ↦ hcut ⟨hlength, hshort⟩⟩

end Session

namespace Call

/-- The stream, the format and the arguments of a call that prints to a stream. -/
def printing? : Call → Option (Stream × Pointer × VaList)
  | printf format args => some (.stdout, format, args)
  | vfprintf handle format args =>
    (Stream.outputOfHandle? handle).map fun stream ↦ (stream, format, args)
  | _ => none

variable {call : Call} {stream : Stream} {pointer : Pointer} {args : VaList}

theorem step_of_printing? (h : call.printing? = some (stream, pointer, args)) (session : Session) :
    stream.isWritable = true ∧
      call.step session = Outcome.ofNumber (session.printTo stream pointer args) := by
  cases call with
  | printf format args =>
    cases h
    exact ⟨rfl, rfl⟩
  | vfprintf handle format args =>
    obtain ⟨found, hfound, heq⟩ := Option.map_eq_some_iff.mp h
    cases heq
    refine ⟨(Option.filter_eq_some_iff.mp hfound).2, ?_⟩
    rw [step, hfound]
  | _ => cases h

/-- A call that prints to a stream returns, and its answer is true exactly when the stream does not
stop in the middle of the rendering: a length is answered for as many bytes on the stream, and
`-1` otherwise. -/
theorem printing_answersTruly_iff (h : call.printing? = some (stream, pointer, args))
    (session : Session) :
    ∃ answer after, call.step session = .returned (.number answer) after ∧ -1 ≤ answer ∧
      (session.AnswersTruly stream pointer args answer after ↔
        ¬ session.IsCutShort stream pointer args) := by
  obtain ⟨hstream, hstep⟩ := step_of_printing? h session
  have hprints := Session.prints_printTo hstream pointer args session
  exact ⟨_, _, hstep, hprints.neg_one_le, hprints.answersTruly_iff hstream⟩

/-- Five bytes to a stream that takes three more: five is answered, and three are there. -/
theorem printf_not_answersTruly :
    let hello := Bytes.ofAscii ['h', 'e', 'l', 'l', 'o']
    let before : Session := { stdout := { room := some 3 } }
    ∃ after,
      (printf (CString.pointerTo hello) ⟨[], []⟩).step before = .returned (.number 5) after ∧
        after.stdout.content = hello.take 3 ∧
        ¬ before.AnswersTruly .stdout (CString.pointerTo hello) ⟨[], []⟩ 5 after := by
  intro hello before
  have hrendering : Session.rendering? (CString.pointerTo hello) ⟨[], []⟩ = some (hello, []) := by
    decide +kernel
  have htakes : ¬ ((before.report []).output .stdout).Refuses hello := by decide
  have hprint := Session.printTo_of_not_refuses rfl hrendering (by decide) htakes
  refine ⟨before.accept .stdout hello, ?_, rfl, ?_⟩
  · rw [step, hprint]
    rfl
  · intro htruly
    obtain ⟨rendered, skipped, -, hlength, hcontent⟩ := htruly (by decide)
    have hrendered : hello.take 3 = rendered := hcontent
    rw [← hrendered] at hlength
    exact absurd hlength (by decide)

/-- The same bytes to a stream that takes any number of them. -/
theorem printf_answersTruly :
    let hello := Bytes.ofAscii ['h', 'e', 'l', 'l', 'o']
    let before : Session := {}
    ∃ answer after,
      (printf (CString.pointerTo hello) ⟨[], []⟩).step before =
          .returned (.number answer) after ∧
        before.AnswersTruly .stdout (CString.pointerTo hello) ⟨[], []⟩ answer after := by
  intro hello before
  have hprinting : (printf (CString.pointerTo hello) ⟨[], []⟩).printing? =
      some (.stdout, CString.pointerTo hello, ⟨[], []⟩) := rfl
  obtain ⟨answer, after, hstep, -, htruly⟩ := printing_answersTruly_iff hprinting before
  refine ⟨answer, after, hstep, htruly.mpr ?_⟩
  rintro ⟨rendered, skipped, -, -, room, hroom, -⟩
  cases hroom

end Call

end StubLibc
