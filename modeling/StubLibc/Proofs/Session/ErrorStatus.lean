import StubLibc.Proofs.Session.Formatted

/-!
# Failures and the error status

A call that answers a failure has stored an error status, whatever the status was before, with one
exception: a line or a block of items of which the stream takes the beginning and not the rest.  The
answer then is a failure, and the status is what it was.
-/

namespace StubLibc

open Console (Descriptor Stream)
open Diagnostic (Record)
open Format

namespace Call

/-- The answer of a call is a failure: a negative length, the end of file, fewer items than there
were, or NULL for a request of more than nothing. -/
def Fails : Call → Reply → Prop
  | printf _ _, .number answer => answer < 0
  | vfprintf _ _ _, .number answer => answer < 0
  | vsnprintf _ _ _ _, .printed answer _ => answer < 0
  | puts _, .number answer => answer = Session.eof
  | putchar _, .number answer => answer = Session.eof
  | fwrite _ size count _, .number items => 0 < size ∧ items < count
  | malloc _ size, .block granted => granted = false ∧ size ≠ 0
  | calloc _ count size, .block granted => granted = false ∧ count * size ≠ 0
  | realloc _ size, .block granted => granted = false ∧ size ≠ 0
  | _, _ => False

/-- The call returns, and its answer is a failure. -/
def ReportsFailure (call : Call) (session : Session) : Prop :=
  ∃ reply after, call.step session = .returned reply after ∧ call.Fails reply

/-- The call stores an error status, the same from whatever status it starts. -/
def StoresError (call : Call) (session : Session) : Prop :=
  ∃ code ≠ 0, ∀ prior, (call.step (session.fail prior)).session.errno = code

/-- The call leaves the error status alone, whatever it is. -/
def KeepsStatus (call : Call) (session : Session) : Prop :=
  ∀ prior, (call.step (session.fail prior)).session.errno = prior

/-- The stream takes the beginning of a line or of a block of items, and not all of it. -/
def StopsShort (call : Call) (session : Session) : Prop :=
  match call with
  | puts text =>
    ∃ bytes, CString.bytes? text = some bytes ∧ session.stdout.CutsShort (bytes ++ [0x0A])
  | fwrite memory size count handle =>
    ∃ block stream, memory = some block ∧ Stream.outputOfHandle? handle = some stream ∧
      size * count ≤ Numeral.wordMax ∧
      (session.output stream).CutsShort (block.take (size * count))
  | _ => False

/-- The memory of a block of items may be read to its end. -/
def HasItems : Call → Prop
  | fwrite (some block) size count _ => size * count ≤ block.length
  | _ => True

theorem KeepsStatus.not_storesError {call : Call} {session : Session}
    (h : call.KeepsStatus session) : ¬ call.StoresError session := by
  rintro ⟨code, hcode, hstored⟩
  exact hcode ((hstored 0).symm.trans (h 0))

end Call

/-! ## Writes from any error status -/

namespace Session

variable {stream : Stream} {bytes : Bytes} {session : Session}

theorem writeStream_fail_of_refuses (hstream : stream.isWritable = true)
    (h : (session.output stream).Refuses bytes) (prior : Int32) :
    (session.fail prior).writeStream stream bytes = (-1, session.fail Errno.io) := by
  rw [← output_fail prior] at h
  exact writeStream_of_refuses hstream h

theorem writeStream_fail_of_not_refuses (hstream : stream.isWritable = true)
    (h : ¬ (session.output stream).Refuses bytes) (prior : Int32) :
    (session.fail prior).writeStream stream bytes =
      (Int.ofNat ((session.output stream).fits bytes),
        (session.accept stream bytes).fail prior) := by
  have hrefuses := h
  rw [← output_fail prior] at hrefuses
  rw [writeStream_of_not_refuses hstream hrefuses, output_fail]
  cases stream with
  | stdin => cases hstream
  | stdout => rfl
  | stderr => rfl

/-! ## Refused requests -/

variable {name : String} {size : Nat}

theorem allocate_fail_of_refused (h : (session.allocate name size).1 = false) (prior : Int32) :
    (session.fail prior).allocate name size = (false, session.fail Errno.noMemory) := by
  unfold allocate at h ⊢
  cases hheap : session.heap.allocate? name size with
  | none =>
    rw [fail, hheap]
    rfl
  | some heap =>
    rw [hheap] at h
    cases h

theorem allocateItems_fail_of_refused (h : (session.allocateItems name count size).1 = false)
    (prior : Int32) :
    (session.fail prior).allocateItems name count size =
      (false, session.fail Errno.noMemory) := by
  unfold allocateItems at h ⊢
  by_cases hwide : count * size > Numeral.wordMax
  · rw [if_pos hwide]
    rfl
  · rw [if_neg hwide] at h ⊢
    exact allocate_fail_of_refused h prior

theorem reallocate_fail_of_refused (hsize : size ≠ 0)
    (h : (session.reallocate name size).1 = false) (prior : Int32) :
    (session.fail prior).reallocate name size = (false, session.fail Errno.noMemory) := by
  unfold reallocate at h ⊢
  cases hblock : session.heap.block? name with
  | none =>
    rw [hblock] at h
    rw [fail, hblock]
    exact allocate_fail_of_refused h prior
  | some block =>
    rw [hblock] at h
    dsimp only at h
    rw [if_neg hsize] at h
    rw [fail, hblock]
    dsimp only
    rw [if_neg hsize]
    cases hgrants : session.heap.grants size with
    | true =>
      rw [hgrants] at h
      cases h
    | false => rfl

end Session

namespace Call

variable {call : Call} {session : Session}

/-! ## Calls of the family -/

theorem fails_store_reply_iff {destination : Destination} {pointer : Pointer} {args : VaList}
    (hcall : call.formatted? = some (destination, pointer, args)) (rendered : Bytes)
    (answer : Int) : call.Fails ((destination.store rendered).reply answer) ↔ answer < 0 := by
  cases call with
  | printf format args =>
    cases hcall
    exact Iff.rfl
  | vfprintf handle format args =>
    obtain ⟨stream, -, heq⟩ := Option.map_eq_some_iff.mp hcall
    cases heq
    exact Iff.rfl
  | vsnprintf buffer size format args =>
    cases hcall
    exact Iff.rfl
  | _ => cases hcall

theorem formatted_storesError {destination : Destination} {pointer : Pointer} {args : VaList}
    (hcall : call.formatted? = some (destination, pointer, args))
    (h : call.ReportsFailure session) : call.StoresError session := by
  rcases hrendering : destination.rendering pointer args with code | ⟨rendered, skipped⟩
  · refine ⟨code, ?_, fun prior ↦ ?_⟩
    · rcases Destination.code_of_rendering hrendering with rfl | rfl
      · decide
      · decide
    · rw [step_of_rendering_error hcall hrendering]
      rfl
  have hstep (session : Session) := (step_of_formatted? hcall session).trans
    (Destination.printVia_of_ok Session.diagnose hrendering session)
  let records := Session.skippedRecords skipped
  by_cases hlength : maxField < rendered.length
  · refine ⟨Errno.overflow, by decide, fun prior ↦ ?_⟩
    rw [hstep, Destination.deliver_of_lt_length hlength]
    rfl
  have hlength := Nat.le_of_not_lt hlength
  by_cases hrefuses : destination.Refuses rendered (session.announce records)
  · refine ⟨Errno.io, by decide, fun prior ↦ ?_⟩
    have hprior : destination.Refuses rendered ((session.fail prior).announce records) := by
      cases destination with
      | stream target => rwa [Destination.Refuses, Session.output_announce_fail]
      | memory buffer size => exact hrefuses
    rw [hstep, ← Session.announce, Destination.deliver_of_refuses hlength hprior]
    rfl
  · obtain ⟨reply, after, hreturned, hfails⟩ := h
    rw [hstep, ← Session.announce, Destination.deliver_of_not_refuses hlength hrefuses] at hreturned
    cases hreturned
    rw [fails_store_reply_iff hcall] at hfails
    exact absurd hfails (Int.not_lt.mpr (Int.natCast_nonneg _))

/-! ## Steps -/

theorem step_puts_null {text : Pointer} (h : CString.bytes? text = none) (session : Session) :
    (puts text).step session =
      .returned (.number Session.eof) (session.fail Errno.invalid) := by
  rw [step, Session.putLine, h]
  rfl

theorem step_puts {text : Pointer} {bytes : Bytes} (h : CString.bytes? text = some bytes)
    (session : Session) :
    (puts text).step session =
      let line := bytes ++ [0x0A]
      .returned
        (.number (if (session.writeStream .stdout line).1 = line.length then 0 else Session.eof))
        (session.writeStream .stdout line).2 := by
  rw [step, Session.putLine, h]
  rfl

variable {stream : Stream} {size count handle : Nat}

theorem step_fwrite (hhandle : Stream.outputOfHandle? handle = some stream) (memory : Pointer)
    (size count : Nat) (session : Session) :
    (fwrite memory size count handle).step session =
      .returned (.number (session.writeItems stream memory size count).1)
        (session.writeItems stream memory size count).2 := by
  rw [step, hhandle]

/-- An impossible size and a missing block are looked at before anything is written. -/
theorem step_fwrite_of_invalid (hhandle : Stream.outputOfHandle? handle = some stream)
    (memory : Pointer) (h : Numeral.wordMax < size * count ∨ memory = none ∧ size * count ≠ 0)
    (session : Session) :
    (fwrite memory size count handle).step session =
      .returned (.number 0) (session.fail Errno.invalid) := by
  rw [step_fwrite hhandle]
  by_cases hwide : Numeral.wordMax < size * count
  · rw [Session.writeItems_of_wordMax_lt hwide]
    rfl
  · obtain ⟨rfl, hempty⟩ := h.resolve_left hwide
    rw [Session.writeItems_null hwide hempty]
    rfl

theorem step_fwrite_of_empty (hhandle : Stream.outputOfHandle? handle = some stream)
    (hempty : size * count = 0) (memory : Pointer) (session : Session) :
    (fwrite memory size count handle).step session = .returned (.number 0) session := by
  rw [step_fwrite hhandle, Session.writeItems_of_empty hempty]
  rfl

theorem step_fwrite_block (hhandle : Stream.outputOfHandle? handle = some stream)
    (hwide : ¬ Numeral.wordMax < size * count) (hempty : size * count ≠ 0) (block : Bytes)
    (session : Session) :
    (fwrite (some block) size count handle).step session =
      let (taken, after) := session.writeStream stream (block.take (size * count))
      .returned (.number (if taken < 0 then 0 else taken.toNat / size : Nat)) after := by
  rw [step_fwrite hhandle, Session.writeItems_block hwide hempty]

/-! ## Characters, lines and items -/

/-- A call that does nothing but fail stores its code. -/
theorem storesError_of_step {reply : Reply} {code : Int32} (hcode : code ≠ 0)
    (hstep : ∀ session : Session, call.step session = .returned reply (session.fail code)) :
    call.StoresError session := by
  refine ⟨code, hcode, fun prior ↦ ?_⟩
  rw [hstep]
  rfl

/-- A call that writes a payload, and answers by how much of it was taken, keeps quiet of a failure
exactly when the payload is cut short. -/
theorem writing_storesError_iff {stream : Stream} {bytes : Bytes} {answer : Int → Reply}
    (hstream : stream.isWritable = true)
    (hstep : ∀ session : Session, call.step session =
      .returned (answer (session.writeStream stream bytes).1) (session.writeStream stream bytes).2)
    (hwhole : ¬ call.Fails (answer (Int.ofNat bytes.length)))
    (h : call.ReportsFailure session) :
    call.StoresError session ↔ ¬ (session.output stream).CutsShort bytes := by
  by_cases hrefuses : (session.output stream).Refuses bytes
  · refine iff_of_true ⟨Errno.io, by decide, fun prior ↦ ?_⟩ hrefuses.not_cutsShort
    rw [hstep, Session.writeStream_fail_of_refuses hstream hrefuses]
    rfl
  · have hkeeps : call.KeepsStatus session := by
      intro prior
      rw [hstep, Session.writeStream_fail_of_not_refuses hstream hrefuses]
      rfl
    refine iff_of_false hkeeps.not_storesError fun hwritten ↦ ?_
    -- What is neither refused nor cut short is taken as a whole, and then there is no failure.
    have hfits := Descriptor.fits_eq_length_iff.mpr ⟨hrefuses, hwritten⟩
    obtain ⟨reply, after, hreturned, hfails⟩ := h
    rw [hstep, Session.writeStream_of_not_refuses hstream hrefuses, hfits] at hreturned
    cases hreturned
    exact hwhole hfails

theorem putchar_storesError {c : Int32} (h : (putchar c).ReportsFailure session) :
    (putchar c).StoresError session := by
  have hstdout : Stream.stdout.isWritable = true := rfl
  let byte := c.toUInt32.toUInt8
  let answer (taken : Int) : Reply := .number (if taken = 1 then byte.toNat else Session.eof)
  have hstep (session : Session) : (putchar c).step session =
      .returned (answer (session.writeStream .stdout [byte]).1)
        (session.writeStream .stdout [byte]).2 := rfl
  have hwhole : ¬ (putchar c).Fails (answer (Int.ofNat [byte].length)) := by
    intro heof
    exact absurd (heof.symm ▸ Int.natCast_nonneg byte.toNat : 0 ≤ Session.eof) (by decide)
  refine (writing_storesError_iff hstdout hstep hwhole h).mpr ?_
  rintro ⟨room, -, hpos, hlt⟩
  exact Nat.not_lt.mpr hpos hlt

theorem puts_storesError_iff {text : Pointer} (h : (puts text).ReportsFailure session) :
    (puts text).StoresError session ↔ ¬ (puts text).StopsShort session := by
  have hstdout : Stream.stdout.isWritable = true := rfl
  cases htext : CString.bytes? text with
  | none =>
    apply iff_of_true
    · exact storesError_of_step (by decide) (step_puts_null htext)
    · rintro ⟨bytes, hbytes, -⟩
      cases htext.symm.trans hbytes
  | some bytes =>
    let line := bytes ++ [0x0A]
    let answer (taken : Int) : Reply :=
      .number (if taken = line.length then 0 else Session.eof)
    have hstep (session : Session) : (puts text).step session =
        .returned (answer (session.writeStream .stdout line).1)
          (session.writeStream .stdout line).2 := step_puts htext session
    have hwhole : ¬ (puts text).Fails (answer (Int.ofNat line.length)) := by
      have hanswer : answer (Int.ofNat line.length) = .number 0 :=
        congrArg Reply.number (if_pos rfl)
      intro heof
      rw [hanswer] at heof
      have hzero : (0 : Int) = Session.eof := heof
      exact absurd hzero (by decide)
    rw [writing_storesError_iff hstdout hstep hwhole h]
    simp [StopsShort, htext, line, Session.output]

theorem fwrite_storesError_iff {memory : Pointer}
    (hitems : (fwrite memory size count handle).HasItems)
    (h : (fwrite memory size count handle).ReportsFailure session) :
    (fwrite memory size count handle).StoresError session ↔
      ¬ (fwrite memory size count handle).StopsShort session := by
  cases hhandle : Stream.outputOfHandle? handle with
  | none =>
    obtain ⟨reply, after, hreturned, -⟩ := h
    rw [step, hhandle] at hreturned
    cases hreturned
  | some stream =>
    have hstream := (Option.filter_eq_some_iff.mp hhandle).2
    by_cases hwide : Numeral.wordMax < size * count
    · have hstep := step_fwrite_of_invalid hhandle memory (.inl hwide)
      refine iff_of_true (storesError_of_step (by decide) hstep) ?_
      rintro ⟨-, -, -, -, hnarrow, -⟩
      exact Nat.not_lt.mpr hnarrow hwide
    by_cases hempty : size * count = 0
    · obtain ⟨reply, after, hreturned, hfails⟩ := h
      rw [step_fwrite_of_empty hhandle hempty] at hreturned
      cases hreturned
      have hcount : 0 < count := Int.ofNat_lt.mp hfails.2
      exact absurd hempty (Nat.ne_of_gt (Nat.mul_pos hfails.1 hcount))
    cases memory with
    | none =>
      have hstep := step_fwrite_of_invalid hhandle none (.inr ⟨rfl, hempty⟩)
      refine iff_of_true (storesError_of_step (by decide) hstep) ?_
      rintro ⟨block, -, hblock, -⟩
      cases hblock
    | some block =>
      let items := block.take (size * count)
      let answer (taken : Int) : Reply :=
        .number (if taken < 0 then 0 else taken.toNat / size : Nat)
      have hstep (session : Session) : (fwrite (some block) size count handle).step session =
          .returned (answer (session.writeStream stream items).1)
            (session.writeStream stream items).2 :=
        step_fwrite_block hhandle hwide hempty block session
      have hwhole : ¬ (fwrite (some block) size count handle).Fails
          (answer (Int.ofNat items.length)) := by
        rintro ⟨hsize, hfewer⟩
        have hall : items.length / size = count := by
          rw [List.length_take, Nat.min_eq_left hitems, Nat.mul_div_cancel_left count hsize]
        exact absurd (Int.ofNat_lt.mp hfewer) (Nat.not_lt.mpr (Nat.le_of_eq hall.symm))
      rw [writing_storesError_iff hstream hstep hwhole h]
      simp [StopsShort, hhandle, items, Nat.le_of_not_lt hwide]

/-! ## Requests -/

/-- A call that asks for memory stores that there was none, if what it asks for is refused whatever
the status. -/
theorem request_storesError {request : Session → Bool × Session}
    (hstep : ∀ session, call.step session = .ofBlock (request session))
    (hrefused : call.Fails (.block (request session).1) →
      ∀ prior, request (session.fail prior) = (false, session.fail Errno.noMemory))
    (h : call.ReportsFailure session) : call.StoresError session := by
  obtain ⟨reply, after, hreturned, hfails⟩ := h
  rw [hstep] at hreturned
  cases hreturned
  refine ⟨Errno.noMemory, by decide, fun prior ↦ ?_⟩
  rw [hstep, hrefused hfails]
  rfl

/-- A failure that a call answers has been stored as an error status, unless the stream took the
beginning of a line or of a block of items. -/
theorem storesError_iff_not_stopsShort (hitems : call.HasItems)
    (h : call.ReportsFailure session) : call.StoresError session ↔ ¬ call.StopsShort session := by
  cases call with
  | printf format args => exact iff_of_true (formatted_storesError rfl h) id
  | vfprintf handle format args =>
    cases hhandle : Stream.outputOfHandle? handle with
    | none =>
      obtain ⟨reply, after, hreturned, -⟩ := h
      rw [step, hhandle] at hreturned
      cases hreturned
    | some stream =>
      have hcall : (vfprintf handle format args).formatted? =
          some (.stream stream, format, args) := by rw [formatted?, hhandle, Option.map_some]
      exact iff_of_true (formatted_storesError hcall h) id
  | vsnprintf buffer size format args => exact iff_of_true (formatted_storesError rfl h) id
  | puts text => exact puts_storesError_iff h
  | putchar c => exact iff_of_true (putchar_storesError h) id
  | fwrite memory size count handle => exact fwrite_storesError_iff hitems h
  | malloc name size =>
    refine iff_of_true (request_storesError (fun _ ↦ rfl) ?_ h) id
    exact fun hfails ↦ Session.allocate_fail_of_refused hfails.1
  | calloc name count size =>
    refine iff_of_true (request_storesError (fun _ ↦ rfl) ?_ h) id
    exact fun hfails ↦ Session.allocateItems_fail_of_refused hfails.1
  | realloc name size =>
    refine iff_of_true (request_storesError (fun _ ↦ rfl) ?_ h) id
    exact fun hfails ↦ Session.reallocate_fail_of_refused hfails.2 hfails.1
  | _ =>
    obtain ⟨reply, after, -, hfails⟩ := h
    exact hfails.elim

/-- A line of six bytes to a stream that takes three more: the answer is a failure, and the error
status is what it was. -/
theorem puts_not_storesError :
    let hello := Bytes.ofAscii ['h', 'e', 'l', 'l', 'o']
    let before : Session := { stdout := { room := some 3 } }
    ∃ after, (puts (CString.pointerTo hello)).step before =
        .returned (.number Session.eof) after ∧
      after.stdout.content = hello.take 3 ∧ after.errno = 0 ∧
      (puts (CString.pointerTo hello)).ReportsFailure before ∧
      ¬ (puts (CString.pointerTo hello)).StoresError before := by
  intro hello before
  have hstdout : Stream.stdout.isWritable = true := rfl
  have htext : CString.bytes? (CString.pointerTo hello) = some hello := by decide
  have htakes : ¬ (before.output .stdout).Refuses (hello ++ [0x0A]) := by decide
  have hstep : (puts (CString.pointerTo hello)).step before =
      .returned (.number Session.eof) (before.accept .stdout (hello ++ [0x0A])) := by
    rw [step, Session.putLine, htext]
    dsimp only
    rw [Session.writeStream_of_not_refuses hstdout htakes]
    rfl
  have hfails : (puts (CString.pointerTo hello)).ReportsFailure before := ⟨_, _, hstep, rfl⟩
  refine ⟨_, hstep, rfl, rfl, hfails, fun hstores ↦ ?_⟩
  exact (puts_storesError_iff hfails).mp hstores ⟨hello, htext, 3, rfl, by decide, by decide⟩

/-- The same line to a stream that takes nothing. -/
theorem puts_storesError :
    let hello := Bytes.ofAscii ['h', 'e', 'l', 'l', 'o']
    let before : Session := { stdout := Descriptor.closed }
    (puts (CString.pointerTo hello)).ReportsFailure before ∧
      (puts (CString.pointerTo hello)).StoresError before := by
  intro hello before
  have hstdout : Stream.stdout.isWritable = true := rfl
  have htext : CString.bytes? (CString.pointerTo hello) = some hello := by decide
  have hrefuses : (before.output .stdout).Refuses (hello ++ [0x0A]) := by decide
  have hstep : (puts (CString.pointerTo hello)).step before =
      .returned (.number Session.eof) (before.fail Errno.io) := by
    rw [step, Session.putLine, htext]
    dsimp only
    rw [Session.writeStream_of_refuses hstdout hrefuses]
    rfl
  have hfails : (puts (CString.pointerTo hello)).ReportsFailure before := ⟨_, _, hstep, rfl⟩
  have hitems : (puts (CString.pointerTo hello)).HasItems := trivial
  refine ⟨hfails, (storesError_iff_not_stopsShort hitems hfails).mpr ?_⟩
  rintro ⟨bytes, -, room, hroom, hpos, -⟩
  cases hroom
  exact absurd hpos (by decide)

end Call

end StubLibc
