import StubLibc.Proofs.Session.Formatted

/-!
# Calls with their diagnostics left out

A call that makes reports is compared with the same call when its reports are dropped before they
are written.  The two give the same answer and leave the same program behind, down to the buffers;
the error stream apart, they can only differ in the error status, and they do where the error stream
lost a report of a call that then succeeded.
-/

namespace StubLibc

open Console (Descriptor Stream)
open Diagnostic (Record)
open Format

def Reply.IsFailure : Reply → Prop
  | number answer => answer < 0
  | printed answer _ => answer < 0
  | _ => False

namespace Session

/-- The session is another one but for the error stream and the error status. -/
def SameBut (session other : Session) : Prop :=
  session = { other with stderr := session.stderr, errno := session.errno }

variable {records : List Record} {session : Session} {stream : Stream}

theorem SameBut.fail {other : Session} (h : session.SameBut other) (code : Int32) :
    (session.fail code).SameBut (other.fail code) := by
  rw [SameBut] at h
  rw [h]
  rfl

/-- Nothing but the error stream and the error status tells of reports. -/
theorem exists_announce_eq (records : List Record) (session : Session) :
    ∃ descriptor code,
      session.announce records = { session with stderr := descriptor, errno := code } := by
  by_cases h : session.LosesOneOf records
  · rw [announce_of_losesOneOf h]
    exact ⟨_, _, rfl⟩
  · rw [announce_of_not_losesOneOf h]
    exact ⟨_, _, rfl⟩

theorem sameBut_announce (records : List Record) (session : Session) :
    (session.announce records).SameBut session := by
  obtain ⟨descriptor, code, hannounce⟩ := exists_announce_eq records session
  rw [hannounce]
  rfl

/-- Reports leave the error status as it was unless one of them is lost. -/
theorem errno_announce_eq_iff :
    (session.announce records).errno = session.errno ↔
      ¬ session.LosesOneOf records ∨ session.errno = Errno.io := by
  by_cases h : session.LosesOneOf records
  · have herrno : (session.announce records).errno = Errno.io := by
      rw [announce_of_losesOneOf h]
      rfl
    rw [herrno, eq_comm]
    exact (or_iff_right (not_not_intro h)).symm
  · rw [announce_of_not_losesOneOf h]
    exact iff_of_true rfl (.inl h)

end Session

namespace Destination

variable {destination : Destination} {rendered : Bytes} {records : List Record}
  {session : Session}

theorem refuses_announce_iff (hother : destination ≠ .stream .stderr) :
    destination.Refuses rendered (session.announce records) ↔
      destination.Refuses rendered session := by
  obtain ⟨descriptor, code, hannounce⟩ := Session.exists_announce_eq records session
  rw [hannounce]
  cases destination with
  | memory buffer size => exact Iff.rfl
  | stream target =>
    cases target with
    | stdin => exact Iff.rfl
    | stdout => exact Iff.rfl
    | stderr => exact absurd rfl hother

theorem sameBut_put_announce (hother : destination ≠ .stream .stderr) :
    (destination.put rendered (session.announce records)).SameBut
      (destination.put rendered session) := by
  obtain ⟨descriptor, code, hannounce⟩ := Session.exists_announce_eq records session
  rw [hannounce]
  cases destination with
  | memory buffer size => rfl
  | stream target =>
    cases target with
    | stdin => rfl
    | stdout => rfl
    | stderr => exact absurd rfl hother

theorem errno_put (rendered : Bytes) (session : Session) (destination : Destination) :
    (destination.put rendered session).errno = session.errno := by
  cases destination with
  | memory buffer size => rfl
  | stream target =>
    cases target with
    | stdin => rfl
    | stdout => rfl
    | stderr => rfl

theorem isFailure_reply_iff (destination : Destination) (answer : Int) :
    (destination.reply answer).IsFailure ↔ answer < 0 := by
  cases destination with
  | stream target => exact Iff.rfl
  | memory buffer size => exact Iff.rfl

/-- A delivery behind reports is the delivery without them, up to what the reports leave. -/
theorem deliver_announce (hother : destination ≠ .stream .stderr) (rendered : Bytes)
    (records : List Record) (session : Session) :
    ∃ answer after quiet,
      destination.deliver rendered (session.announce records) = (answer, after) ∧
        destination.deliver rendered session = (answer, quiet) ∧ after.SameBut quiet ∧
        (after.errno = quiet.errno ↔
          ¬ session.LosesOneOf records ∨ session.errno = Errno.io ∨ answer < 0) := by
  have hnegative : (-1 : Int) < 0 := by decide
  have hsame := Session.sameBut_announce records session
  by_cases hlength : maxField < rendered.length
  · refine ⟨_, _, _, deliver_of_lt_length hlength _ _, deliver_of_lt_length hlength _ _, ?_, ?_⟩
    · exact hsame.fail Errno.overflow
    · exact iff_of_true rfl (.inr (.inr hnegative))
  have hlength := Nat.le_of_not_lt hlength
  by_cases hrefuses : destination.Refuses rendered session
  · refine ⟨_, _, _, deliver_of_refuses hlength ((refuses_announce_iff hother).mpr hrefuses),
      deliver_of_refuses hlength hrefuses, ?_, ?_⟩
    · exact hsame.fail Errno.io
    · exact iff_of_true rfl (.inr (.inr hnegative))
  · refine ⟨_, _, _, deliver_of_not_refuses hlength (mt (refuses_announce_iff hother).mp hrefuses),
      deliver_of_not_refuses hlength hrefuses, sameBut_put_announce hother, ?_⟩
    have hanswer : ¬ Int.ofNat rendered.length < 0 := Int.not_lt.mpr (Int.natCast_nonneg _)
    rw [errno_put, errno_put, Session.errno_announce_eq_iff, or_iff_left hanswer]

end Destination

namespace Call

/-- The calls that make reports and return: those of `mkdir`, and those that format to anything but
the error stream. -/
def IsReporting (call : Call) : Prop :=
  (∃ path mode, call = mkdir path mode) ∨
    ∃ destination pointer args, call.formatted? = some (destination, pointer, args) ∧
      destination ≠ .stream .stderr

/-- What the library does for a call, with its reports dealt with by `emit`. -/
def stepVia (emit : Record → Session → Session) (call : Call) (session : Session) : Outcome :=
  match call.formatted? with
  | some (destination, pointer, args) => destination.printVia emit pointer args session
  | none =>
    match call with
    | mkdir path _ =>
      let plan := Mkdir.plan (CString.bytes? path) session.settings.mkdir
      .returned (.number plan.status) (session.announceVia emit plan.notice.toList)
    | call => call.step session

/-- The call with its reports left out. -/
def stepQuietly (call : Call) (session : Session) : Outcome :=
  call.stepVia (fun _ session ↦ session) session

/-- The records that a call deals with. -/
def records (call : Call) (settings : Settings) : List Record :=
  match call.formatted? with
  | some (destination, pointer, args) =>
    match destination.rendering pointer args with
    | .error _ => []
    | .ok (_, skipped) => Session.skippedRecords skipped
  | none =>
    match call with
    | mkdir path _ => (Mkdir.plan (CString.bytes? path) settings.mkdir).notice.toList
    | _ => []

/-- The call gives the same answer with its reports and without them, and leaves the same session up
to the error stream and the error status.  The status is the same as well, unless a report of a call
that succeeds was lost; it may then still have been an output error before. -/
structure RunsAlike (call : Call) (before : Session) (reply : Reply) (after quiet : Session) :
    Prop where
  step : call.step before = .returned reply after
  stepQuietly : call.stepQuietly before = .returned reply quiet
  same : after.SameBut quiet
  errno : after.errno = quiet.errno ↔
    ¬ before.LosesOneOf (call.records before.settings) ∨ before.errno = Errno.io ∨ reply.IsFailure

variable {call : Call} {destination : Destination} {pointer : Pointer} {args : VaList}

theorem stepVia_of_formatted? (emit : Record → Session → Session)
    (h : call.formatted? = some (destination, pointer, args)) (session : Session) :
    call.stepVia emit session = destination.printVia emit pointer args session := by
  unfold stepVia
  rw [h]

/-- A call writes its reports to the error stream. -/
theorem stepVia_diagnose (call : Call) (session : Session) :
    call.stepVia Session.diagnose session = call.step session := by
  cases hcall : call.formatted? with
  | some formatted =>
    obtain ⟨destination, pointer, args⟩ := formatted
    rw [stepVia_of_formatted? _ hcall, step_of_formatted? hcall]
  | none =>
    unfold stepVia
    rw [hcall]
    cases call with
    | mkdir path mode =>
      rw [step]
      dsimp only
      cases (Mkdir.plan (CString.bytes? path) session.settings.mkdir).notice with
      | none => rfl
      | some record => rfl
    | _ => rfl

theorem formatted_runsAlike (h : call.formatted? = some (destination, pointer, args))
    (hother : destination ≠ .stream .stderr) (session : Session) :
    ∃ reply after quiet, call.RunsAlike session reply after quiet := by
  have hquietly : call.stepQuietly session =
      destination.printVia (fun _ session ↦ session) pointer args session :=
    stepVia_of_formatted? _ h session
  rcases hrendering : destination.rendering pointer args with code | ⟨rendered, skipped⟩
  · have hrecords : call.records session.settings = [] := by
      unfold records
      rw [h]
      dsimp only
      rw [hrendering]
    refine ⟨destination.reply (-1), session.fail code, session.fail code, ?_, ?_, rfl, ?_⟩
    · exact step_of_rendering_error h hrendering session
    · rw [hquietly, Destination.printVia_of_error _ hrendering]
    · rw [hrecords]
      exact iff_of_true rfl (.inl id)
  · have hrecords : call.records session.settings = Session.skippedRecords skipped := by
      unfold records
      rw [h]
      dsimp only
      rw [hrendering]
    obtain ⟨answer, after, quiet, hafter, hquiet, hsame, herrno⟩ :=
      Destination.deliver_announce hother rendered (Session.skippedRecords skipped) session
    refine ⟨(destination.store rendered).reply answer, after, quiet, ?_, ?_, hsame, ?_⟩
    · rw [step_of_formatted? h, Destination.printVia_of_ok _ hrendering, ← Session.announce, hafter]
    · rw [hquietly, Destination.printVia_of_ok _ hrendering, Session.announceVia_id, hquiet]
    · rw [hrecords, Destination.isFailure_reply_iff]
      exact herrno

theorem mkdir_runsAlike (path : Pointer) (mode : Nat) (session : Session) :
    ∃ reply after quiet, (mkdir path mode).RunsAlike session reply after quiet := by
  let plan := Mkdir.plan (CString.bytes? path) session.settings.mkdir
  have hstatus : ¬ (Reply.number plan.status).IsFailure := by
    intro hnegative
    exact absurd (show (0 : Int) < 0 from hnegative) (by decide)
  refine ⟨.number plan.status, session.announce plan.notice.toList, session, ?_, ?_,
    Session.sameBut_announce _ session, ?_⟩
  · rw [← stepVia_diagnose]
    rfl
  · rw [stepQuietly]
    exact congrArg _ (Session.announceVia_id _ session)
  · rw [Session.errno_announce_eq_iff, or_iff_left hstatus]
    rfl

/-- Every call that makes reports and returns runs alike without them. -/
theorem reporting_runsAlike (h : call.IsReporting) (session : Session) :
    ∃ reply after quiet, call.RunsAlike session reply after quiet := by
  obtain ⟨path, mode, rfl⟩ | ⟨destination, pointer, args, hcall, hother⟩ := h
  · exact mkdir_runsAlike path mode session
  · exact formatted_runsAlike hcall hother session

/-- A directory is announced to an error stream that is closed: the call succeeds, and leaves the
output error of its own report behind. -/
theorem mkdir_disturbed :
    let path := CString.pointerTo (Bytes.ofAscii ['/', 't', 'm', 'p', '/', 'x'])
    let before : Session := { stderr := Descriptor.closed }
    ∃ after quiet,
      (mkdir path 493).step before = .returned (.number 0) after ∧
        (mkdir path 493).stepQuietly before = .returned (.number 0) quiet ∧
        after.errno = Errno.io ∧ quiet.errno = 0 := by
  intro path before
  let record := Record.skipped .mkdir (Mkdir.shownPath (CString.bytes? path))
  have hrefuses : before.stderr.Refuses (record.bytes before.settings.log) := by decide +kernel
  have hstep : (mkdir path 493).step before = .returned (.number 0) (before.diagnose record) := rfl
  rw [Session.diagnose_of_refuses hrefuses] at hstep
  exact ⟨_, before, hstep, rfl, rfl, rfl⟩

/-- The same announcement to an error stream that takes it. -/
theorem mkdir_undisturbed :
    let path := CString.pointerTo (Bytes.ofAscii ['/', 't', 'm', 'p', '/', 'x'])
    let before : Session := {}
    ∃ reply after quiet,
      (mkdir path 493).step before = .returned reply after ∧
        (mkdir path 493).stepQuietly before = .returned reply quiet ∧ after.SameBut quiet ∧
        after.errno = quiet.errno := by
  intro path before
  have hreporting : (mkdir path 493).IsReporting := .inl ⟨path, 493, rfl⟩
  obtain ⟨reply, after, quiet, halike⟩ := reporting_runsAlike hreporting before
  have hopen : before.stderr.room = none := rfl
  have hkept := Session.not_losesOneOf_of_open hopen ((mkdir path 493).records before.settings)
  exact ⟨reply, after, quiet, halike.step, halike.stepQuietly, halike.same,
    halike.errno.mpr (.inl hkept)⟩

end Call

end StubLibc
