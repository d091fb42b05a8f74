import StubLibc.Proofs.Session.Printing

/-!
# What diagnostics leave behind

Records that are written one after the other leave the error stream with what it had room for.  If
it had no room at all for one of them, they also leave an output error as the error status.  They
touch nothing else, and in particular no record that is lost is remembered in any other way.
-/

namespace StubLibc

open Console (Descriptor Stream)
open Diagnostic (Record)
open Format

namespace Console.Descriptor

/-- Of payloads that are offered one after the other, the descriptor has no room for any byte of
one. -/
def Drops : List Bytes → Descriptor → Prop
  | [], _ => False
  | payload :: rest, descriptor =>
    descriptor.Refuses payload ∨ Drops rest (descriptor.accept payload)

theorem not_refuses_of_open {descriptor : Descriptor} (h : descriptor.room = none)
    (bytes : Bytes) : ¬ descriptor.Refuses bytes := by
  rintro ⟨hfits, hbytes⟩
  rw [fits, h] at hfits
  exact hbytes (List.length_eq_zero_iff.mp hfits)

theorem room_accept_of_open {descriptor : Descriptor} (h : descriptor.room = none)
    (bytes : Bytes) : (descriptor.accept bytes).room = none := by
  rw [accept, h, Option.map_none]

theorem not_drops_of_open {descriptor : Descriptor} (h : descriptor.room = none)
    (payloads : List Bytes) : ¬ descriptor.Drops payloads := by
  induction payloads generalizing descriptor with
  | nil => exact id
  | cons payload rest ih =>
    rintro (hrefuses | hdrops)
    · exact not_refuses_of_open h payload hrefuses
    · exact ih (room_accept_of_open h payload) hdrops

end Console.Descriptor

namespace Session

/-- Deals with records one after the other. -/
def announceVia (emit : Record → Session → Session) (records : List Record) (session : Session) :
    Session :=
  records.foldl (fun session record ↦ emit record session) session

/-- Writes records to the error stream. -/
def announce (records : List Record) (session : Session) : Session :=
  session.announceVia diagnose records

/-- Records that nobody deals with change nothing. -/
theorem announceVia_id (records : List Record) (session : Session) :
    session.announceVia (fun _ session ↦ session) records = session := by
  induction records with
  | nil => rfl
  | cons record rest ih => exact ih

/-- The records of the conversions that were read over. -/
def skippedRecords (skipped : List Conversion) : List Record :=
  skipped.map fun conversion ↦ Record.unknownSpecifier conversion.byte

theorem report_eq_announce (skipped : List Conversion) (session : Session) :
    session.report skipped = session.announce (skippedRecords skipped) := by
  rw [announce, announceVia, skippedRecords, List.foldl_map]
  rfl

variable {record : Record} {records rest : List Record} {session : Session}

theorem announce_cons (record : Record) (rest : List Record) (session : Session) :
    session.announce (record :: rest) = (session.diagnose record).announce rest := rfl

/-- The lines of records, one after the other. -/
def lines (records : List Record) (session : Session) : Bytes :=
  records.flatMap (Record.bytes session.settings.log)

/-- The error stream has no room for any byte of one of the records. -/
def LosesOneOf (records : List Record) (session : Session) : Prop :=
  session.stderr.Drops (records.map (Record.bytes session.settings.log))

theorem losesOneOf_cons :
    session.LosesOneOf (record :: rest) ↔
      session.stderr.Refuses (record.bytes session.settings.log) ∨
        (session.accept .stderr (record.bytes session.settings.log)).LosesOneOf rest :=
  Iff.rfl

theorem not_losesOneOf_of_open (h : session.stderr.room = none) (records : List Record) :
    ¬ session.LosesOneOf records :=
  Descriptor.not_drops_of_open h _

theorem accept_lines_cons (record : Record) (rest : List Record) (session : Session) :
    session.accept .stderr (session.lines (record :: rest)) =
      (session.accept .stderr (record.bytes session.settings.log)).accept .stderr
        (session.lines rest) := by
  simp [lines, accept, output, withOutput, Descriptor.accept_append]

theorem diagnose_of_refuses
    (h : session.stderr.Refuses (record.bytes session.settings.log)) :
    session.diagnose record = session.fail Errno.io := by
  have hstderr : Stream.stderr.isWritable = true := rfl
  rw [diagnose, writeStream_of_refuses hstderr h]

theorem diagnose_of_not_refuses
    (h : ¬ session.stderr.Refuses (record.bytes session.settings.log)) :
    session.diagnose record = session.accept .stderr (record.bytes session.settings.log) := by
  have hstderr : Stream.stderr.isWritable = true := rfl
  rw [diagnose, writeStream_of_not_refuses hstderr h]

/-- Records that all find room leave themselves on the error stream, and nothing else. -/
theorem announce_of_not_losesOneOf (h : ¬ session.LosesOneOf records) :
    session.announce records = session.accept .stderr (session.lines records) := by
  induction records generalizing session with
  | nil => exact (accept_of_fits_eq_zero (Descriptor.fits_nil _)).symm
  | cons record rest ih =>
    rw [losesOneOf_cons, not_or] at h
    rw [announce_cons, diagnose_of_not_refuses h.1, ih h.2, accept_lines_cons]
    rfl

/-- A record that finds no room leaves an output error behind; the others are on the error stream
as far as it has room. -/
theorem announce_of_losesOneOf (h : session.LosesOneOf records) :
    session.announce records =
      (session.accept .stderr (session.lines records)).fail Errno.io := by
  induction records generalizing session with
  | nil => exact h.elim
  | cons record rest ih =>
    rw [losesOneOf_cons] at h
    rw [announce_cons, accept_lines_cons]
    by_cases hfirst : session.stderr.Refuses (record.bytes session.settings.log)
    · have hkeeps : session.accept .stderr (record.bytes session.settings.log) = session :=
        accept_of_fits_eq_zero hfirst.1
      rw [diagnose_of_refuses hfirst, hkeeps]
      by_cases hrest : (session.fail Errno.io).LosesOneOf rest
      · exact ih hrest
      · exact announce_of_not_losesOneOf hrest
    · rw [diagnose_of_not_refuses hfirst]
      exact ih (h.resolve_left hfirst)

@[simp]
theorem output_fail (code : Int32) (session : Session) (stream : Stream) :
    (session.fail code).output stream = session.output stream := by
  cases stream with
  | stdin => rfl
  | stdout => rfl
  | stderr => rfl

/-- Lost or not, records leave on the streams what these had room for. -/
theorem output_announce (records : List Record) (session : Session) (stream : Stream) :
    (session.announce records).output stream =
      (session.accept .stderr (session.lines records)).output stream := by
  by_cases h : session.LosesOneOf records
  · rw [announce_of_losesOneOf h, output_fail]
  · rw [announce_of_not_losesOneOf h]

/-- What records leave on the streams does not depend on the error status. -/
theorem output_announce_fail (records : List Record) (code : Int32) (session : Session)
    (stream : Stream) :
    ((session.fail code).announce records).output stream =
      (session.announce records).output stream := by
  rw [output_announce, output_announce]
  exact output_fail code (session.accept .stderr (session.lines records)) stream

end Session

end StubLibc
