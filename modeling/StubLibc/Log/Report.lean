import StubLibc.Log.Check
import StubLibc.Text.Lines

/-!
# Log reports

A log may hold console output between its records: lines that do not start with an opening brace,
white space apart, are passed over.  The others are record lines; a report counts them, keeps the
records of the valid ones and the complaints about the rest, both in the order of the log.  Lines
are numbered from one, those passed over included.
-/

namespace StubLibc.Log

open Diagnostic (Record)

/-- What a log holds. -/
structure Report where
  lines : Nat := 0
  records : List Record := []
  errors : List LineError := []
  deriving DecidableEq, Repr

namespace Report

/-- Nothing in the log was refused. -/
def isClean (report : Report) : Bool := report.errors.isEmpty

/-- The symbols of the traps in the log. -/
def trapped (report : Report) : List String :=
  (report.records.filter fun record => record.event = .unimplemented).filterMap Record.symbol

/-- The number of record lines that were refused. -/
def invalid (report : Report) : Nat := report.lines - report.records.length

/-- Puts the verdict on a record line before the report of the lines after it. -/
def prepend (verdict : Except (List LineError) Record) (report : Report) : Report :=
  match verdict with
  | .ok record =>
    { report with lines := report.lines + 1, records := record :: report.records }
  | .error errors =>
    { report with lines := report.lines + 1, errors := errors ++ report.errors }

end Report

/-- A line that is read as a record. -/
def isRecordLine (line : List Char) : Bool :=
  line.head? == some '\x7b'

/-- The report of lines of which the first has a number. -/
def checkLines (number : Nat) : List (List Char) → Report
  | [] => {}
  | line :: rest =>
    let trimmed := Text.trim line
    let report := checkLines (number + 1) rest
    if isRecordLine trimmed then report.prepend (checkLine trimmed number) else report

/-- The report of a log. -/
def check (text : List Char) : Report := checkLines 1 (Text.lines text)

end StubLibc.Log
