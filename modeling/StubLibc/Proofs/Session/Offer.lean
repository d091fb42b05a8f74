import StubLibc.Proofs.Session.Printing

/-!
# What calls offer to the streams

Each call addresses payloads to the output streams: bytes of the program, and records on the error
stream.  `Call.offers` lists them from the call and the settings alone; the state of the session
decides only how much of them the descriptors accept.  A step, and then a run, leaves behind the
descriptors that accepted its offers in order.
-/

namespace StubLibc

open Console (Descriptor Stream)
open Diagnostic (Record)
open Format

/-- One payload for a stream. -/
inductive Offer where
  /-- Bytes of the program. -/
  | output (stream : Stream) (bytes : Bytes)
  /-- A record, for the error stream. -/
  | diagnostic (record : Record)
  deriving DecidableEq, Repr

namespace Offer

/-- The bytes that an offer has for a stream. -/
def bytesFor (log : LogFormat) (stream : Stream) : Offer → Bytes
  | output target bytes => if target = stream then bytes else []
  | diagnostic record => if stream = .stderr then record.bytes log else []

/-- The bytes that offers have for a stream, as one payload. -/
def payload (log : LogFormat) (stream : Stream) (offers : List Offer) : Bytes :=
  offers.flatMap (bytesFor log stream)

def record? : Offer → Option Record
  | output _ _ => none
  | diagnostic record => some record

def records (offers : List Offer) : List Record := offers.filterMap record?

/-- The report of a conversion that was read over. -/
def ofSkipped (conversion : Conversion) : Offer :=
  diagnostic (Record.unknownSpecifier conversion.byte)

theorem payload_append (log : LogFormat) (stream : Stream) (first second : List Offer) :
    payload log stream (first ++ second) = payload log stream first ++ payload log stream second :=
  List.flatMap_append

theorem payload_output (log : LogFormat) (stream target : Stream) (bytes : Bytes) :
    payload log stream [.output target bytes] = if target = stream then bytes else [] :=
  List.append_nil _

theorem payload_diagnostic (log : LogFormat) (record : Record) :
    payload log .stderr [.diagnostic record] = record.bytes log :=
  List.append_nil _

end Offer

/-! ## The offers of a call -/

namespace Call

/-- A trap offers its record. -/
def trapOffers (label : String) : List Offer := [.diagnostic (Record.unimplemented label)]

/-- A call that prints offers its reports, and then its rendering if its length can be answered. -/
def printOffers (stream : Stream) (format : Pointer) (args : VaList) : List Offer :=
  match Session.rendering? format args with
  | none => []
  | some (rendered, skipped) =>
    skipped.map Offer.ofSkipped ++
      if rendered.length ≤ maxField then [.output stream rendered] else []

/-- A call that prints into memory offers its reports alone. -/
def printIntoOffers (buffer : Option Bytes) (size : Nat) (format : Pointer) (args : VaList) :
    List Offer :=
  if buffer.isNone ∧ size > 0 then []
  else
    match Session.rendering? format args with
    | none => []
    | some (_, skipped) => skipped.map Offer.ofSkipped

/-- Rendering with typed arguments offers its reports alone. -/
def collectedOffers (format : Bytes) (args : List Arg) : List Offer :=
  match renderFormat format args with
  | .error _ => []
  | .ok (_, skipped) => skipped.map Offer.ofSkipped

/-- Items in memory are offered as one block. -/
def itemOffers (stream : Stream) (memory : Pointer) (size count : Nat) : List Offer :=
  if size * count > Numeral.wordMax ∨ size * count = 0 then []
  else (memory.map fun memory ↦ Offer.output stream (memory.take (size * count))).toList

/-- Bytes for a numbered descriptor are offered to the stream with that number. -/
def descriptorOffers (number : Int) (bytes : Bytes) : List Offer :=
  match number with
  | 1 => [.output .stdout bytes]
  | 2 => [.output .stderr bytes]
  | _ => []

/-- What a call offers. -/
def offers (settings : Settings) : Call → List Offer
  | printf format args => printOffers .stdout format args
  | vfprintf handle format args =>
    match Stream.outputOfHandle? handle with
    | some stream => printOffers stream format args
    | none => trapOffers Capability.vfprintf.symbol
  | vsnprintf buffer size format args => printIntoOffers buffer size format args
  | renderCollected format args => collectedOffers format args
  | fwrite memory size count handle =>
    match Stream.outputOfHandle? handle with
    | some stream => itemOffers stream memory size count
    | none => trapOffers Capability.fwrite.symbol
  | fflush handle =>
    match Stream.ofHandle? handle with
    | some _ => []
    | none => trapOffers Capability.fflush.symbol
  | putchar c => [.output .stdout [c.toUInt32.toUInt8]]
  | puts text =>
    match CString.bytes? text with
    | none => []
    | some bytes => [.output .stdout (bytes ++ [0x0A])]
  | writeStream stream bytes => if stream.isWritable then [.output stream bytes] else []
  | writeAll descriptor bytes => descriptorOffers descriptor bytes
  | mkdir path _ =>
    ((Mkdir.plan (CString.bytes? path) settings.mkdir).notice.map Offer.diagnostic).toList
  | exit status =>
    .diagnostic (Record.request .exit .exitRequested (Numeral.ofInt status.toInt)) ::
      trapOffers Capability.exit.symbol
  | system command =>
    .diagnostic (Record.request .system .commandRequested (CString.display command)) ::
      trapOffers Capability.system.symbol
  | unimplemented label => trapOffers (CString.display label)
  | stub function _ => trapOffers function.traps.symbol
  | _ => []

end Call

/-! ## Accepting offers -/

namespace Session

/-- A session has been through offers: its descriptors accepted them in order, and its settings are
what they were. -/
structure Took (offers : List Offer) (before after : Session) : Prop where
  settings : after.settings = before.settings
  stdout :
    after.stdout = before.stdout.accept (Offer.payload before.settings.log .stdout offers)
  stderr :
    after.stderr = before.stderr.accept (Offer.payload before.settings.log .stderr offers)

variable {offers more : List Offer} {before between after : Session} {stream : Stream}

theorem Took.nil (hsettings : after.settings = before.settings)
    (hstdout : after.stdout = before.stdout) (hstderr : after.stderr = before.stderr) :
    Took [] before after where
  settings := hsettings
  stdout := by rw [hstdout, Offer.payload, List.flatMap_nil, Descriptor.accept_nil]
  stderr := by rw [hstderr, Offer.payload, List.flatMap_nil, Descriptor.accept_nil]

theorem Took.refl (session : Session) : Took [] session session := .nil rfl rfl rfl

/-- Offers made one after the other are taken one after the other. -/
theorem Took.trans (hfirst : Took offers before between) (hsecond : Took more between after) :
    Took (offers ++ more) before after where
  settings := hsecond.settings.trans hfirst.settings
  stdout := by
    rw [Offer.payload_append, Descriptor.accept_append, ← hfirst.stdout, ← hfirst.settings]
    exact hsecond.stdout
  stderr := by
    rw [Offer.payload_append, Descriptor.accept_append, ← hfirst.stderr, ← hfirst.settings]
    exact hsecond.stderr

theorem Took.fail (h : Took offers before after) (code : Int32) :
    Took offers before (after.fail code) :=
  ⟨h.settings, h.stdout, h.stderr⟩

/-! ## What the parts of a step take -/

theorem took_accept (hstream : stream.isWritable = true) (bytes : Bytes) (session : Session) :
    Took [.output stream bytes] session (session.accept stream bytes) := by
  cases stream with
  | stdin => cases hstream
  | stdout =>
    refine ⟨rfl, ?_, ?_⟩
    · rw [Offer.payload_output, if_pos rfl]
      rfl
    · rw [Offer.payload_output, if_neg (by decide), Descriptor.accept_nil]
      rfl
  | stderr =>
    refine ⟨rfl, ?_, ?_⟩
    · rw [Offer.payload_output, if_neg (by decide), Descriptor.accept_nil]
      rfl
    · rw [Offer.payload_output, if_pos rfl]
      rfl

theorem took_writeStream (hstream : stream.isWritable = true) (bytes : Bytes) (session : Session) :
    Took [.output stream bytes] session (session.writeStream stream bytes).2 := by
  have htook := took_accept hstream bytes session
  by_cases hrefuses : (session.output stream).Refuses bytes
  · rw [writeStream_of_refuses hstream hrefuses]
    rw [accept_of_fits_eq_zero hrefuses.1] at htook
    exact htook.fail _
  · rw [writeStream_of_not_refuses hstream hrefuses]
    exact htook

theorem took_diagnose (record : Record) (session : Session) :
    Took [.diagnostic record] session (session.diagnose record) := by
  have htook : Took [.output .stderr (record.bytes session.settings.log)] session
      (session.diagnose record) := took_writeStream rfl _ session
  exact ⟨htook.settings, htook.stdout, htook.stderr⟩

theorem took_trap (label : String) (session : Session) :
    Took (Call.trapOffers label) session (session.trap label).2 := by
  have htook := took_diagnose (Record.unimplemented label) session
  exact ⟨htook.settings, htook.stdout, htook.stderr⟩

theorem took_report (skipped : List Conversion) (session : Session) :
    Took (skipped.map Offer.ofSkipped) session (session.report skipped) := by
  induction skipped generalizing session with
  | nil => exact .refl session
  | cons conversion rest ih => exact (took_diagnose _ session).trans (ih _)

theorem took_answerLength (length : Nat) (session : Session) :
    Took [] session (answerLength length session).2 := by
  unfold answerLength
  split
  · exact (Took.refl session).fail _
  · exact .refl session

theorem took_printTo (hstream : stream.isWritable = true) (pointer : Pointer) (args : VaList)
    (session : Session) :
    Took (Call.printOffers stream pointer args) session
      (session.printTo stream pointer args).2 := by
  have hprints := prints_printTo hstream pointer args session
  generalize session.printTo stream pointer args = outcome at hprints ⊢
  unfold Call.printOffers
  cases hprints with
  | null hformat =>
    rw [rendering?_of_null hformat]
    exact (Took.refl session).fail _
  | failed hformat herror =>
    rw [rendering?_of_error hformat herror]
    exact (Took.refl session).fail _
  | tooLong hrendering hlength =>
    rw [hrendering]
    dsimp only
    rw [if_neg (Nat.not_le.mpr hlength), List.append_nil]
    exact (took_report _ session).fail _
  | @refused rendered skipped hrendering hlength hrefuses =>
    rw [hrendering]
    dsimp only
    rw [if_pos hlength]
    have htook := took_accept hstream rendered (session.report skipped)
    rw [accept_of_fits_eq_zero hrefuses.1] at htook
    exact ((took_report skipped session).trans htook).fail _
  | @written rendered skipped hrendering hlength htakes =>
    rw [hrendering]
    dsimp only
    rw [if_pos hlength]
    exact (took_report skipped session).trans (took_accept hstream rendered _)

theorem took_printInto (buffer : Option Bytes) (size : Nat) (pointer : Pointer) (args : VaList)
    (session : Session) :
    Took (Call.printIntoOffers buffer size pointer args) session
      (session.printInto buffer size pointer args).2.2 := by
  unfold printInto Call.printIntoOffers
  cases hformat : CString.bytes? pointer with
  | none =>
    rw [rendering?_of_null hformat]
    dsimp only
    rw [ite_self]
    exact (Took.refl session).fail _
  | some format =>
    dsimp only
    split
    · exact (Took.refl session).fail _
    cases hrender : renderArguments format args with
    | error error =>
      rw [rendering?_of_error hformat hrender, renderCall_eq, hrender]
      exact (Took.refl session).fail _
    | ok rendering =>
      obtain ⟨rendered, skipped⟩ := rendering
      rw [rendering?_of_ok hformat hrender, renderCall_eq, hrender]
      have htook := (took_report skipped session).trans
        (took_answerLength rendered.length (session.report skipped))
      rwa [List.append_nil] at htook

theorem took_renderCollected (format : Bytes) (args : List Arg) (session : Session) :
    Took (Call.collectedOffers format args) session
      (session.renderCollected (Segment.ofFormat format) args).2 := by
  rw [Call.collectedOffers, renderCollected_eq]
  cases renderFormat format args with
  | error error => exact .refl session
  | ok rendering => exact took_report rendering.2 session

theorem took_writeItems (hstream : stream.isWritable = true) (memory : Pointer) (size count : Nat)
    (session : Session) :
    Took (Call.itemOffers stream memory size count) session
      (session.writeItems stream memory size count).2 := by
  unfold Call.itemOffers
  by_cases hwide : Numeral.wordMax < size * count
  · rw [writeItems_of_wordMax_lt hwide, if_pos (Or.inl hwide)]
    exact (Took.refl session).fail _
  by_cases hempty : size * count = 0
  · rw [writeItems_of_empty hempty, if_pos (Or.inr hempty)]
    exact .refl session
  rw [if_neg (not_or.mpr ⟨hwide, hempty⟩)]
  cases memory with
  | none =>
    rw [writeItems_null hwide hempty]
    exact (Took.refl session).fail _
  | some block =>
    rw [writeItems_block hwide hempty]
    exact took_writeStream hstream _ session

/-- A descriptor that does not exist takes nothing. -/
theorem deliver_of_ne {number : Int} (hout : number ≠ 1) (herr : number ≠ 2) (bytes : Bytes)
    (session : Session) : Console.deliver (write number) bytes session = (0, session) := by
  have hwrite : session.write number bytes = (-1, session) := by
    unfold write
    split
    · exact absurd rfl hout
    · exact absurd rfl herr
    · rfl
  unfold Console.deliver
  split
  · rfl
  · rw [hwrite]
    rfl

theorem took_writeAll (number : Int) (bytes : Bytes) (session : Session) :
    Took (Call.descriptorOffers number bytes) session (session.writeAll number bytes).2 := by
  unfold Call.descriptorOffers
  split
  · have hstdout : Stream.stdout.isWritable = true := rfl
    exact took_writeStream hstdout bytes session
  · have hstderr : Stream.stderr.isWritable = true := rfl
    exact took_writeStream hstderr bytes session
  · next hout herr =>
    rw [writeAll, Console.writeAll, deliver_of_ne hout herr]
    dsimp only
    split
    · exact .nil rfl rfl rfl
    · exact .nil rfl rfl rfl

theorem took_putLine (text : Pointer) (session : Session) :
    Took ((Call.puts text).offers session.settings) session (session.putLine text).2 := by
  rw [Call.offers, putLine]
  cases CString.bytes? text with
  | none => exact (Took.refl session).fail _
  | some bytes =>
    have hstdout : Stream.stdout.isWritable = true := rfl
    exact took_writeStream hstdout (bytes ++ [0x0A]) session

theorem took_allocate (name : String) (size : Nat) (session : Session) :
    Took [] session (session.allocate name size).2 := by
  unfold allocate
  split
  · exact .nil rfl rfl rfl
  · exact (Took.refl session).fail _

theorem took_allocateItems (name : String) (count size : Nat) (session : Session) :
    Took [] session (session.allocateItems name count size).2 := by
  unfold allocateItems
  split
  · exact (Took.refl session).fail _
  · exact took_allocate name (count * size) session

theorem took_reallocate (name : String) (size : Nat) (session : Session) :
    Took [] session (session.reallocate name size).2 := by
  unfold reallocate
  split
  · exact took_allocate name size session
  · split
    · exact .nil rfl rfl rfl
    · split
      · exact .nil rfl rfl rfl
      · exact (Took.refl session).fail _

theorem took_poke (name : String) (bytes : Bytes) (session : Session) :
    Took [] session (session.poke name bytes).2 := by
  unfold poke
  split
  · exact .refl session
  · exact .nil rfl rfl rfl

/-! ## Steps -/

theorem took_ofTrap (label : String) (session : Session) :
    Took (Call.trapOffers label) session (Outcome.ofTrap label session).session :=
  took_trap label session

/-- The session after a call is the session before it that accepted the call's offers. -/
theorem took_step (call : Call) (session : Session) :
    Took (call.offers session.settings) session (call.step session).session := by
  cases call with
  | printf format args =>
    have hstdout : Stream.stdout.isWritable = true := rfl
    exact took_printTo hstdout format args session
  | vfprintf handle format args =>
    rw [Call.offers, Call.step]
    cases hstream : Stream.outputOfHandle? handle with
    | none => exact took_ofTrap _ session
    | some stream =>
      exact took_printTo (Option.filter_eq_some_iff.mp hstream).2 format args session
  | vsnprintf buffer size format args => exact took_printInto buffer size format args session
  | renderCollected format args => exact took_renderCollected format args session
  | fwrite memory size count handle =>
    rw [Call.offers, Call.step]
    cases hstream : Stream.outputOfHandle? handle with
    | none => exact took_ofTrap _ session
    | some stream =>
      exact took_writeItems (Option.filter_eq_some_iff.mp hstream).2 memory size count session
  | fflush handle =>
    rw [Call.offers, Call.step]
    cases Stream.ofHandle? handle with
    | none => exact took_ofTrap _ session
    | some _ => exact .refl session
  | putchar c =>
    have hstdout : Stream.stdout.isWritable = true := rfl
    exact took_writeStream hstdout _ session
  | puts text => exact took_putLine text session
  | writeStream stream bytes =>
    rw [Call.offers, Call.step]
    split
    · next hstream => exact took_writeStream hstream bytes session
    · next hstream =>
      rw [writeStream, if_neg hstream]
      exact (Took.refl session).fail _
  | writeAll descriptor bytes => exact took_writeAll descriptor bytes session
  | mkdir path mode =>
    rw [Call.offers, Call.step]
    cases (Mkdir.plan (CString.bytes? path) session.settings.mkdir).notice with
    | none => exact .refl session
    | some record => exact took_diagnose record session
  | malloc block size => exact took_allocate block size session
  | calloc block count size => exact took_allocateItems block count size session
  | realloc block size => exact took_reallocate block size session
  | poke block bytes => exact took_poke block bytes session
  | exit status => exact (took_diagnose _ session).trans (took_trap _ _)
  | system command => exact (took_diagnose _ session).trans (took_trap _ _)
  | unimplemented label => exact took_ofTrap _ session
  | stub function _ => exact took_ofTrap _ session
  | _ => exact .nil rfl rfl rfl

end Session

end StubLibc
