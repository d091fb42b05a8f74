import StubLibc.Proofs.Session.Formatted
import StubLibc.Proofs.Session.Traps

/-!
# What a program sees of a session

A program that does not read back its error stream sees the answers of its calls and everything in
the session but the settings and that stream.  As long as both descriptors take all that they are
offered, what it sees of a call depends on what it saw before and on nothing else: the settings
decide how records are written and how a trap ends the process, and neither comes back to it.
-/

namespace StubLibc

open Console (Descriptor Stream)
open Diagnostic (Record)
open Format

namespace Session

variable {α β : Type} {session : Session} {stream : Stream}

/-- The session but for its settings and its error stream. -/
def visible (session : Session) : Session :=
  { session with settings := {}, stderr := {} }

/-- Both descriptors take any number of bytes. -/
structure IsOpen (session : Session) : Prop where
  stdout : session.stdout.room = none
  stderr : session.stderr.room = none

theorem IsOpen.visible (h : session.IsOpen) : session.visible.IsOpen := ⟨h.stdout, rfl⟩

theorem IsOpen.took {after : Session} {offers : List Offer} (h : session.IsOpen)
    (htook : Took offers session after) : after.IsOpen := by
  constructor
  · rw [htook.stdout, Descriptor.room_accept_of_open h.stdout]
  · rw [htook.stderr, Descriptor.room_accept_of_open h.stderr]

theorem IsOpen.output (h : session.IsOpen) (hstream : stream.isWritable = true) :
    (session.output stream).room = none := by
  cases stream with
  | stdin => cases hstream
  | stdout => exact h.stdout
  | stderr => exact h.stderr

/-! ## Computations -/

/-- An answer, and what is visible of the session with it. -/
def seen (outcome : α × Session) : α × Session := (outcome.1, outcome.2.visible)

/-- What is seen of a computation on an open session depends on what was visible before. -/
def Oblivious (compute : Session → α × Session) : Prop :=
  ∀ session : Session, session.IsOpen → seen (compute session) = seen (compute session.visible)

theorem visible_accept (stream : Stream) (bytes : Bytes) (session : Session) :
    (session.accept stream bytes).visible = (session.visible.accept stream bytes).visible := by
  cases stream <;> rfl

theorem writeStream_of_open (hstream : stream.isWritable = true) (h : session.IsOpen)
    (bytes : Bytes) :
    session.writeStream stream bytes = (Int.ofNat bytes.length, session.accept stream bytes) := by
  have hroom := h.output hstream
  have hfits : (session.output stream).fits bytes = bytes.length := by
    rw [Descriptor.fits, hroom]
  rw [writeStream_of_not_refuses hstream (Descriptor.not_refuses_of_open hroom bytes), hfits]

theorem oblivious_writeStream (stream : Stream) (bytes : Bytes) :
    Oblivious (writeStream stream bytes) := by
  intro session h
  by_cases hstream : stream.isWritable = true
  · rw [writeStream_of_open hstream h, writeStream_of_open hstream h.visible]
    exact congrArg (Int.ofNat bytes.length, ·) (visible_accept stream bytes session)
  · rw [writeStream, writeStream, if_neg hstream, if_neg hstream]
    rfl

theorem oblivious_writeAll (number : Int) (bytes : Bytes) : Oblivious (writeAll number bytes) := by
  intro session h
  by_cases hout : number = 1
  · subst hout
    exact oblivious_writeStream .stdout bytes session h
  by_cases herr : number = 2
  · subst herr
    exact oblivious_writeStream .stderr bytes session h
  · rw [writeAll, writeAll, Console.writeAll, Console.writeAll, deliver_of_ne hout herr,
      deliver_of_ne hout herr]
    cases bytes <;> rfl

theorem Oblivious.answer {compute : Session → α × Session} (h : Oblivious compute) (f : α → β) :
    Oblivious fun session ↦ (f (compute session).1, (compute session).2) :=
  fun session hopen ↦ congrArg (fun outcome ↦ (f outcome.1, outcome.2)) (h session hopen)

theorem oblivious_putChar (c : Int32) : Oblivious (putChar c) := by
  have hwrite := oblivious_writeStream .stdout [c.toUInt32.toUInt8]
  exact hwrite.answer fun taken ↦ if taken = 1 then (c.toUInt32.toUInt8.toNat : Int) else eof

theorem oblivious_putLine (text : Pointer) : Oblivious (putLine text) := by
  intro session h
  unfold putLine
  cases CString.bytes? text with
  | none => rfl
  | some bytes =>
    have hwrite := oblivious_writeStream .stdout (bytes ++ [0x0A])
    exact (hwrite.answer fun taken ↦ if taken = (bytes ++ [0x0A]).length then 0 else eof) session h

theorem oblivious_writeItems (stream : Stream) (memory : Pointer) (size count : Nat) :
    Oblivious (writeItems stream memory size count) := by
  intro session h
  by_cases hwide : Numeral.wordMax < size * count
  · rw [writeItems_of_wordMax_lt hwide, writeItems_of_wordMax_lt hwide]
    rfl
  by_cases hempty : size * count = 0
  · rw [writeItems_of_empty hempty, writeItems_of_empty hempty]
    rfl
  cases memory with
  | none =>
    rw [writeItems_null hwide hempty, writeItems_null hwide hempty]
    rfl
  | some block =>
    have hwrite := oblivious_writeStream stream (block.take (size * count))
    rw [writeItems_block hwide hempty, writeItems_block hwide hempty]
    exact (hwrite.answer fun taken ↦ if taken < 0 then 0 else taken.toNat / size) session h

theorem oblivious_allocate (name : String) (size : Nat) : Oblivious (allocate name size) := by
  intro session _
  have hheap : session.visible.heap = session.heap := rfl
  rw [allocate, allocate, hheap]
  cases session.heap.allocate? name size <;> rfl

theorem oblivious_allocateItems (name : String) (count size : Nat) :
    Oblivious (allocateItems name count size) := by
  intro session h
  rw [allocateItems, allocateItems]
  split
  · rfl
  · exact oblivious_allocate name (count * size) session h

theorem oblivious_reallocate (name : String) (size : Nat) : Oblivious (reallocate name size) := by
  intro session h
  have hheap : session.visible.heap = session.heap := rfl
  rw [reallocate, reallocate, hheap]
  cases session.heap.block? name with
  | none => exact oblivious_allocate name size session h
  | some block =>
    dsimp only
    split
    · rfl
    · split <;> rfl

theorem oblivious_poke (name : String) (bytes : Bytes) : Oblivious (poke name bytes) := by
  intro session _
  have hheap : session.visible.heap = session.heap := rfl
  rw [poke, poke, hheap]
  cases session.heap.block? name <;> rfl

/-! ## Diagnostics -/

theorem visible_diagnose (h : session.IsOpen) (record : Record) :
    (session.diagnose record).visible = session.visible := by
  rw [diagnose_of_not_refuses (Descriptor.not_refuses_of_open h.stderr _)]
  rfl

theorem visible_report (h : session.IsOpen) (skipped : List Conversion) :
    (session.report skipped).visible = session.visible := by
  rw [report_eq_announce, announce_of_not_losesOneOf (not_losesOneOf_of_open h.stderr _)]
  rfl

theorem oblivious_renderCollected (format : Bytes) (args : List Arg) :
    Oblivious (renderCollected (Segment.ofFormat format) args) := by
  intro session h
  rw [renderCollected_eq, renderCollected_eq]
  cases renderFormat format args with
  | error error => rfl
  | ok rendering =>
    have hreport := (visible_report h rendering.2).trans
      (visible_report h.visible rendering.2).symm
    exact congrArg (Except.ok rendering.1, ·) hreport

end Session

/-! ## Calls -/

namespace Outcome

/-- What a program sees of the outcome of its call; of a trap, that it does not return. -/
def visible : Outcome → Option Reply × Session
  | returned reply session => (some reply, session.visible)
  | halted _ session => (none, session.visible)

theorem visible_session (outcome : Outcome) : outcome.visible.2 = outcome.session.visible := by
  cases outcome <;> rfl

theorem visible_ofTrap {session : Session} (h : session.IsOpen) (label : String) :
    (ofTrap label session).visible =
      (none, { session.visible with ledger := session.ledger ++ [Trap.Event.ofLabel label] }) := by
  let after := session.diagnose (Record.unimplemented label)
  calc
    (ofTrap label session).visible =
        (none, { after.visible with ledger := after.ledger ++ [Trap.Event.ofLabel label] }) := rfl
    _ = _ := by rw [Session.visible_diagnose h, Session.ledger_diagnose]

end Outcome

namespace Call

open Session (Oblivious IsOpen)

variable {call : Call} {session : Session}

theorem visible_returned {α : Type} {compute : Session → α × Session} (hcompute : Oblivious compute)
    (h : session.IsOpen) (reply : α → Reply) :
    (Outcome.returned (reply (compute session).1) (compute session).2).visible =
      (Outcome.returned (reply (compute session.visible).1) (compute session.visible).2).visible :=
  congrArg (fun outcome ↦ (some (reply outcome.1), outcome.2)) (hcompute session h)

theorem visible_put {other : Session} (h : session.visible = other.visible) (rendered : Bytes)
    (destination : Destination) :
    (destination.put rendered session).visible = (destination.put rendered other).visible := by
  cases destination with
  | stream target =>
    calc
      (session.accept target rendered).visible = (session.visible.accept target rendered).visible :=
        Session.visible_accept target rendered session
      _ = (other.visible.accept target rendered).visible := by rw [h]
      _ = (other.accept target rendered).visible :=
        (Session.visible_accept target rendered other).symm
  | memory buffer size => exact h

theorem visible_step_of_formatted {destination : Destination} {pointer : Pointer} {args : VaList}
    (hcall : call.formatted? = some (destination, pointer, args)) (h : session.IsOpen) :
    (call.step session).visible = (call.step session.visible).visible := by
  rcases hrendering : destination.rendering pointer args with code | ⟨rendered, skipped⟩
  · rw [step_of_rendering_error hcall hrendering, step_of_rendering_error hcall hrendering]
    rfl
  · by_cases hlength : maxField < rendered.length
    · rw [step_of_lt_length hcall hrendering hlength h.stderr,
        step_of_lt_length hcall hrendering hlength h.visible.stderr]
      rfl
    · -- The reports stand on the error stream before the rendering is put down, in another form.
      have hlength := Nat.le_of_not_lt hlength
      rw [step_of_open hcall hrendering hlength h.stdout h.stderr,
        step_of_open hcall hrendering hlength h.visible.stdout h.visible.stderr]
      let records := Session.skippedRecords skipped
      have hreported : (session.accept .stderr (session.lines records)).visible =
          (session.visible.accept .stderr (session.visible.lines records)).visible := rfl
      exact congrArg (some _, ·) (visible_put hreported rendered destination)

theorem visible_trap (h : session.IsOpen) (label : String) :
    (Outcome.ofTrap label session).visible = (Outcome.ofTrap label session.visible).visible := by
  rw [Outcome.visible_ofTrap h, Outcome.visible_ofTrap h.visible]
  rfl

theorem visible_request (h : session.IsOpen) (record : Record) (label : String) :
    (Outcome.ofTrap label (session.diagnose record)).visible =
      (Outcome.ofTrap label (session.visible.diagnose record)).visible := by
  have hdiagnosed := h.took (Session.took_diagnose record session)
  have hvisible := h.visible.took (Session.took_diagnose record session.visible)
  rw [Outcome.visible_ofTrap hdiagnosed, Outcome.visible_ofTrap hvisible,
    Session.visible_diagnose h, Session.visible_diagnose h.visible, Session.ledger_diagnose,
    Session.ledger_diagnose]
  rfl

/-- The program is not told whether the directory was announced. -/
theorem visible_mkdir (h : session.IsOpen) (path : Pointer) (mode : Nat) :
    ((mkdir path mode).step session).visible = (some (.number 0), session.visible) := by
  rw [step]
  unfold Mkdir.plan
  cases session.settings.mkdir with
  | silent => rfl
  | notice => exact congrArg (some (Reply.number 0), ·) (Session.visible_diagnose h _)

/-- What a program sees of a call depends on what it saw before. -/
theorem visible_step (call : Call) (h : session.IsOpen) :
    (call.step session).visible = (call.step session.visible).visible := by
  cases call with
  | printf format args => exact visible_step_of_formatted rfl h
  | vfprintf handle format args =>
    cases hstream : Stream.outputOfHandle? handle with
    | some stream =>
      have hcall : (vfprintf handle format args).formatted? =
          some (.stream stream, format, args) := by
        rw [formatted?, hstream]
        rfl
      exact visible_step_of_formatted hcall h
    | none =>
      rw [step, step, hstream]
      exact visible_trap h _
  | vsnprintf buffer size format args => exact visible_step_of_formatted rfl h
  | renderCollected format args =>
    exact visible_returned (Session.oblivious_renderCollected format args) h .rendered
  | fwrite memory size count handle =>
    rw [step, step]
    cases Stream.outputOfHandle? handle with
    | some stream =>
      exact visible_returned (Session.oblivious_writeItems stream memory size count) h (.number ·)
    | none => exact visible_trap h _
  | fflush handle =>
    rw [step, step]
    cases Stream.ofHandle? handle with
    | some stream => rfl
    | none => exact visible_trap h _
  | putchar c => exact visible_returned (Session.oblivious_putChar c) h .number
  | puts text => exact visible_returned (Session.oblivious_putLine text) h .number
  | writeStream stream bytes =>
    exact visible_returned (Session.oblivious_writeStream stream bytes) h .number
  | writeAll descriptor bytes =>
    exact visible_returned (Session.oblivious_writeAll descriptor bytes) h .number
  | mkdir path mode =>
    rw [visible_mkdir h, visible_mkdir h.visible]
    rfl
  | malloc block size => exact visible_returned (Session.oblivious_allocate block size) h .block
  | calloc block count size =>
    exact visible_returned (Session.oblivious_allocateItems block count size) h .block
  | realloc block size => exact visible_returned (Session.oblivious_reallocate block size) h .block
  | poke block bytes => exact visible_returned (Session.oblivious_poke block bytes) h (.number ·)
  | exit status => exact visible_request h _ _
  | system command => exact visible_request h _ _
  | unimplemented label => exact visible_trap h _
  | stub function _ => exact visible_trap h _
  | _ => rfl

end Call

/-! ## Runs -/

namespace Session

variable {session : Session}

/-- What a program sees of a step. -/
def Step.visible (step : Step) : Option Reply × Session := (step.reply, step.after.visible)

theorem Step.visible_ofCall (call : Call) (session : Session) :
    (Step.ofCall call session).visible = (call.step session).visible := by
  unfold Step.ofCall
  cases call.step session <;> rfl

theorem IsOpen.step (h : session.IsOpen) (call : Call) : (call.step session).session.IsOpen :=
  h.took (took_step call session)

theorem visible_session_step (call : Call) (h : session.IsOpen) :
    (call.step session).session.visible = (call.step session.visible).session.visible := by
  rw [← Outcome.visible_session, ← Outcome.visible_session, Call.visible_step call h]

/-- What a program sees of a run depends on what it saw at its start. -/
theorem map_visible_run (calls : List Call) (h : session.IsOpen) :
    (run calls session).1.map Step.visible = (run calls session.visible).1.map Step.visible := by
  induction calls generalizing session with
  | nil => rfl
  | cons call rest ih =>
    have hfirst : (Step.ofCall call session).visible =
        (Step.ofCall call session.visible).visible := by
      rw [Step.visible_ofCall, Step.visible_ofCall, Call.visible_step call h]
    by_cases hends : call.EndsProcess
    · rw [run_cons_of_endsProcess hends, run_cons_of_endsProcess hends, List.map_singleton,
        List.map_singleton, hfirst]
    · rw [run_cons_of_not_endsProcess hends, run_cons_of_not_endsProcess hends, List.map_cons,
        List.map_cons, hfirst, ih (h.step call), ih (h.visible.step call),
        visible_session_step call h]

end Session

end StubLibc
