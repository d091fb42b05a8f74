import StubLibc.Proofs.Format.Skipped
import StubLibc.Proofs.Session.EntryPoints
import StubLibc.Proofs.Session.Traps

/-!
# What the streams hold after a run

The content of a descriptor after a run is what it held before, and then the first bytes of all
that the calls made offer it, in order, as many as it has room for.  Nothing is lost before the
room is used up, nothing comes twice, and nothing of a later call stands before an earlier one.
-/

namespace StubLibc

open Console (Descriptor Stream)
open Diagnostic (Record)
open Format

namespace Console.Descriptor

/-- The first of some bytes, as many as the descriptor has room for. -/
def admitted (bytes : Bytes) (descriptor : Descriptor) : Bytes :=
  match descriptor.room with
  | none => bytes
  | some room => bytes.take room

theorem content_accept (bytes : Bytes) (descriptor : Descriptor) :
    (descriptor.accept bytes).content = descriptor.content ++ descriptor.admitted bytes := by
  obtain ⟨content, room⟩ := descriptor
  cases room with
  | none => rw [accept_open, admitted]
  | some room => rw [accept_limited, admitted]

end Console.Descriptor

/-! ## Reports before renderings -/

namespace Call

/-- The reports of a format: one for each of its conversions that is not printed. -/
def reports (format : Bytes) : List Offer :=
  ((Segment.ofFormat format).filterMap Segment.unprinted?).map Offer.ofSkipped

variable {pointer : Pointer} {args : VaList} {rendered : Bytes} {skipped : List Conversion}

theorem map_ofSkipped_of_rendering?
    (h : Session.rendering? pointer args = some (rendered, skipped)) :
    skipped.map Offer.ofSkipped = reports (CString.bytes pointer) := by
  obtain ⟨format, hformat, hrender⟩ := Session.exists_format_of_rendering? h
  have hbytes : CString.bytes pointer = format := by
    rw [CString.bytes, hformat, Option.getD_some]
  rw [renderArguments] at hrender
  cases hslots : Slot.ofSegments (Segment.ofFormat format) with
  | error error =>
    rw [hslots] at hrender
    cases hrender
  | ok slots =>
    rw [hslots] at hrender
    rw [hbytes, reports, eq_filterMap_unprinted?_of_renderFormat hrender]

/-- A call that prints offers nothing when there is no rendering, and otherwise the reports of its
format before the rendering. -/
theorem printOffers_eq (stream : Stream) (pointer : Pointer) (args : VaList) :
    printOffers stream pointer args =
      match Session.rendering? pointer args with
      | none => []
      | some (rendered, _) =>
        reports (CString.bytes pointer) ++
          if rendered.length ≤ maxField then [.output stream rendered] else [] := by
  rw [printOffers]
  cases hrendering : Session.rendering? pointer args with
  | none => rfl
  | some rendering =>
    dsimp only
    rw [map_ofSkipped_of_rendering? hrendering]

/-- A call that prints into memory offers the reports of its format when there is a rendering. -/
theorem printIntoOffers_eq (buffer : Option Bytes) (size : Nat) (pointer : Pointer)
    (args : VaList) :
    printIntoOffers buffer size pointer args =
      if (buffer.isNone ∧ size > 0) ∨ Session.rendering? pointer args = none then []
      else reports (CString.bytes pointer) := by
  rw [printIntoOffers]
  cases hrendering : Session.rendering? pointer args with
  | none => simp
  | some rendering =>
    dsimp only
    rw [map_ofSkipped_of_rendering? hrendering]
    simp

end Call

/-! ## Runs -/

namespace Session

/-- The session that a run leaves behind. -/
def final (calls : List Call) (session : Session) : Session :=
  ((run calls session).1.getLast?.map Step.after).getD session

/-- What the calls of a run offer, as far as they are reached. -/
def offered (calls : List Call) (session : Session) : List Offer :=
  (calls.take (run calls session).1.length).flatMap (Call.offers session.settings)

variable {call : Call}

theorem final_cons_of_endsProcess (h : call.EndsProcess) (rest : List Call) (session : Session) :
    final (call :: rest) session = (call.step session).session := by
  rw [final, run_cons_of_endsProcess h, List.getLast?_singleton, Option.map_some,
    Option.getD_some, Step.after_ofCall]

theorem final_cons_of_not_endsProcess (h : ¬ call.EndsProcess) (rest : List Call)
    (session : Session) :
    final (call :: rest) session = final rest (call.step session).session := by
  rw [final, run_cons_of_not_endsProcess h, List.getLast?_cons, Option.map_some,
    Option.getD_some, ← Option.getD_map Step.after, Step.after_ofCall, final]

theorem offered_cons_of_endsProcess (h : call.EndsProcess) (rest : List Call)
    (session : Session) : offered (call :: rest) session = call.offers session.settings := by
  rw [offered, run_cons_of_endsProcess h, List.length_singleton, List.take_succ_cons,
    List.take_zero, List.flatMap_singleton]

theorem offered_cons_of_not_endsProcess (h : ¬ call.EndsProcess) (rest : List Call)
    (session : Session) :
    offered (call :: rest) session =
      call.offers session.settings ++ offered rest (call.step session).session := by
  rw [offered, run_cons_of_not_endsProcess h, List.length_cons, List.take_succ_cons,
    List.flatMap_cons, offered, (took_step call session).settings]

/-- A run takes the offers of its calls, one call after the other. -/
theorem took_run (calls : List Call) (session : Session) :
    Took (offered calls session) session (final calls session) := by
  induction calls generalizing session with
  | nil => exact .refl session
  | cons call rest ih =>
    have htook := took_step call session
    by_cases hends : call.EndsProcess
    · rw [offered_cons_of_endsProcess hends, final_cons_of_endsProcess hends]
      exact htook
    · rw [offered_cons_of_not_endsProcess hends, final_cons_of_not_endsProcess hends]
      exact htook.trans (ih _)

/-- After a run, each output stream holds what it held before and then, of all that the calls made
offer it in order, as much from the front as there is room for.  A call that prints offers the
reports on its format before its rendering, one for each conversion that is not printed, in the
order of the format; one without a rendering offers nothing, and one whose rendering is too long
for an answer its reports alone. -/
theorem run_content (calls : List Call) (session : Session) :
    let payload := fun stream ↦ Offer.payload session.settings.log stream (offered calls session)
    (final calls session).stdout.content =
        session.stdout.content ++ session.stdout.admitted (payload .stdout) ∧
      (final calls session).stderr.content =
        session.stderr.content ++ session.stderr.admitted (payload .stderr) ∧
      (∀ stream pointer args,
        Call.printOffers stream pointer args =
          match rendering? pointer args with
          | none => []
          | some (rendered, _) =>
            Call.reports (CString.bytes pointer) ++
              if rendered.length ≤ maxField then [.output stream rendered] else []) ∧
      ∀ buffer size pointer args,
        Call.printIntoOffers buffer size pointer args =
          if (buffer.isNone ∧ size > 0) ∨ rendering? pointer args = none then []
          else Call.reports (CString.bytes pointer) := by
  intro payload
  have htook := took_run calls session
  refine ⟨?_, ?_, Call.printOffers_eq, Call.printIntoOffers_eq⟩
  · rw [htook.stdout, Descriptor.content_accept]
  · rw [htook.stderr, Descriptor.content_accept]

/-- On open streams, not every call leaves its rendering behind, or nothing where it is refused: a
rendering that is too long for an answer is reported on and not printed, and a stream that is not
written to leaves the record of a trap. -/
theorem run_content_exceptions :
    let before : Session := {}
    let widest := Call.printf (CString.pointerTo widestFormat) ⟨[.number 1], []⟩
    let misdirected := Call.vfprintf 0 (CString.pointerTo [0x78]) ⟨[], []⟩
    (∃ rendered,
      rendering? (CString.pointerTo widestFormat) ⟨[.number 1], []⟩ = some (rendered, [.f]) ∧
        (final [widest] before).stdout.content ≠
          before.stdout.content ++ before.stdout.admitted rendered ∧
        (final [widest] before).stderr.content =
          (Record.unknownSpecifier Conversion.f.byte).bytes .text) ∧
      (final [misdirected] before).stderr.content = (Record.unimplemented "vfprintf").bytes .text ∧
      (final [misdirected] before).stderr.content ≠ before.stderr.content := by
  intro before widest misdirected
  obtain ⟨rendered, hrendering, hlength⟩ := exists_rendering?_widestFormat
  have hreturns : ¬ widest.EndsProcess := by decide +kernel
  have hwidest : final [widest] before = (before.report [.f]).fail Errno.overflow := by
    rw [final_cons_of_not_endsProcess hreturns, Call.step, printTo_of_lt_length hrendering hlength]
    rfl
  refine ⟨⟨rendered, hrendering, ?_, ?_⟩, ?_, ?_⟩
  · rw [hwidest]
    intro hcontent
    have hempty : ((before.report [.f]).fail Errno.overflow).stdout.content = [] := by
      decide +kernel
    rw [hempty] at hcontent
    have hnil : rendered = [] := hcontent.symm
    rw [hnil] at hlength
    exact absurd hlength (by decide)
  · rw [hwidest]
    decide +kernel
  · decide +kernel
  · decide +kernel

end Session

end StubLibc
