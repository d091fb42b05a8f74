import Mathlib
import StubLibc.CommandLine.Files
import StubLibc.Proofs.Text.Decoding

/-!
# The counts of a log report

A report is told by the record lines of its log: it counts all of them, keeps the records of the
valid ones, and has the complaints about the others, each under the number of its own line.  A line
that is refused has at least one complaint, so the numbers of lines and of records differ by the
lines refused, and a report without complaints is one of as many records as lines.

The command that checks a log says these numbers, and fails exactly when a line was refused.
-/

namespace StubLibc.Log

open Diagnostic (Record)

/-! ## Record lines -/

/-- A physical line of a log, trimmed, with its number. -/
structure Entry where
  number : Nat
  text : List Char

namespace Entry

/-- The verdict on a line that is read as a record. -/
def verdict (entry : Entry) : Except (List LineError) Record :=
  checkLine entry.text entry.number

/-- The line is read as a record and refused. -/
def IsRejected (entry : Entry) : Prop := ∃ errors, entry.verdict = .error errors

/-- The record of a line that is valid. -/
def record? (entry : Entry) : Option Record := entry.verdict.toOption

/-- The complaints about a line. -/
def errors (entry : Entry) : List LineError :=
  match entry.verdict with
  | .ok _ => []
  | .error errors => errors

instance : DecidablePred IsRejected := fun entry ↦
  match h : entry.verdict with
  | .ok _ => isFalse (by simp [IsRejected, h])
  | .error errors => isTrue ⟨errors, h⟩

end Entry

/-- The record lines among physical lines of which the first has a number. -/
def entriesFrom (number : Nat) (lines : List (List Char)) : List Entry :=
  ((lines.zipIdx number).map fun (line, i) ↦ Entry.mk i (Text.trim line)).filter fun entry ↦
    isRecordLine entry.text

/-- The record lines of a log. -/
def entries (text : List Char) : List Entry := entriesFrom 1 (Text.lines text)

theorem entriesFrom_cons (number : Nat) (line : List Char) (rest : List (List Char)) :
    entriesFrom number (line :: rest) =
      if isRecordLine (Text.trim line) then
        ⟨number, Text.trim line⟩ :: entriesFrom (number + 1) rest
      else entriesFrom (number + 1) rest := by
  unfold entriesFrom
  rw [List.zipIdx_cons, List.map_cons, List.filter_cons]

/-- The numbers of record lines grow. -/
theorem pairwise_number_entriesFrom (number : Nat) (lines : List (List Char)) :
    (entriesFrom number lines).Pairwise fun first second ↦ first.number < second.number := by
  apply List.Pairwise.filter
  rw [List.pairwise_map, List.pairwise_iff_getElem]
  intro i j hi hj hij
  rw [List.getElem_zipIdx, List.getElem_zipIdx]
  dsimp only
  omega

/-! ## Complaints -/

/-- A line is never refused without a complaint. -/
theorem ne_nil_of_checkLine {text : List Char} {number : Nat} {errors : List LineError}
    (h : checkLine text number = .error errors) : errors ≠ [] := by
  unfold checkLine at h
  cases hparse : Record.parse text with
  | error fault =>
    rw [hparse] at h
    cases h
    exact List.cons_ne_nil _ _
  | ok record =>
    rw [hparse] at h
    dsimp only at h
    cases hfound : complaints record with
    | nil =>
      rw [hfound] at h
      cases h
    | cons complaint more =>
      rw [hfound] at h
      cases h
      exact List.cons_ne_nil _ _

/-- Every complaint about a line has the line's number. -/
theorem line_eq_of_checkLine {text : List Char} {number : Nat} {errors : List LineError}
    (h : checkLine text number = .error errors) {error : LineError} (herror : error ∈ errors) :
    error.line = number := by
  unfold checkLine at h
  cases hparse : Record.parse text with
  | error fault =>
    rw [hparse] at h
    cases h
    rw [List.mem_singleton.mp herror]
  | ok record =>
    rw [hparse] at h
    dsimp only at h
    split at h
    · cases h
    · cases h
      obtain ⟨complaint, -, rfl⟩ := List.mem_map.mp herror
      rfl

namespace Entry

variable {entry : Entry} {error : LineError}

theorem verdict_cases (entry : Entry) :
    (∃ record, entry.verdict = .ok record ∧ entry.record? = some record ∧ entry.errors = []) ∨
      ∃ errors, entry.verdict = .error errors ∧ entry.record? = none ∧ entry.errors = errors := by
  unfold record? errors
  cases h : entry.verdict with
  | ok record => exact .inl ⟨record, rfl, rfl, rfl⟩
  | error errors => exact .inr ⟨errors, rfl, rfl, rfl⟩

theorem isSome_record?_iff : entry.record?.isSome = true ↔ ¬ entry.IsRejected := by
  unfold IsRejected
  obtain ⟨record, h, hrecord, -⟩ | ⟨errors, h, hrecord, -⟩ := entry.verdict_cases
  · simp [h, hrecord]
  · simp [h, hrecord]

theorem errors_ne_nil_iff : entry.errors ≠ [] ↔ entry.IsRejected := by
  unfold IsRejected
  obtain ⟨record, h, -, herrors⟩ | ⟨errors, h, -, rfl⟩ := entry.verdict_cases
  · simp [h, herrors]
  · exact iff_of_true (ne_nil_of_checkLine h) ⟨_, h⟩

theorem line_eq_of_mem_errors (h : error ∈ entry.errors) : error.line = entry.number := by
  obtain ⟨record, -, -, herrors⟩ | ⟨errors, hverdict, -, rfl⟩ := entry.verdict_cases
  · rw [herrors] at h
    cases h
  · exact line_eq_of_checkLine hverdict h

end Entry

/-! ## Reports -/

/-- The report of record lines. -/
def Report.ofEntries (entries : List Entry) : Report where
  lines := entries.length
  records := entries.filterMap Entry.record?
  errors := entries.flatMap Entry.errors

/-- A line in front adds its verdict and nothing else. -/
theorem Report.ofEntries_cons (entry : Entry) (entries : List Entry) :
    ofEntries (entry :: entries) = (ofEntries entries).prepend entry.verdict := by
  unfold ofEntries
  obtain ⟨record, h, hrecord, herrors⟩ | ⟨errors, h, hrecord, herrors⟩ := entry.verdict_cases
  · rw [h, prepend, List.filterMap_cons_some hrecord, List.flatMap_cons, herrors]
    rfl
  · rw [h, prepend, List.filterMap_cons_none hrecord, List.flatMap_cons, herrors]
    rfl

theorem checkLines_eq (number : Nat) (lines : List (List Char)) :
    checkLines number lines = Report.ofEntries (entriesFrom number lines) := by
  induction lines generalizing number with
  | nil => rfl
  | cons line rest ih =>
    rw [checkLines, entriesFrom_cons, ih]
    by_cases h : isRecordLine (Text.trim line) = true
    · rw [if_pos h, if_pos h, Report.ofEntries_cons]
      rfl
    · rw [if_neg h, if_neg h]

theorem check_eq (text : List Char) : check text = Report.ofEntries (entries text) :=
  checkLines_eq 1 (Text.lines text)

namespace Report

variable {entries : List Entry}

/-- What a report tells about the record lines of its log. -/
structure AddsUp (entries : List Entry) (report : Report) : Prop where
  lines_eq : report.lines = entries.length
  records_eq : report.records = entries.filterMap Entry.record?
  errors_eq : report.errors = entries.flatMap Entry.errors
  errors_ne_nil : ∀ entry ∈ entries, entry.IsRejected → entry.errors ≠ []
  line_of_errors : ∀ error ∈ report.errors,
    ∃ entry ∈ entries, entry.IsRejected ∧ error ∈ entry.errors ∧ error.line = entry.number
  ordered : (report.errors.map LineError.line).Pairwise (· ≤ ·)

theorem addsUp_ofEntries
    (h : entries.Pairwise fun first second ↦ first.number < second.number) :
    AddsUp entries (ofEntries entries) where
  lines_eq := rfl
  records_eq := rfl
  errors_eq := rfl
  errors_ne_nil _ _ := Entry.errors_ne_nil_iff.mpr
  line_of_errors error herror := by
    obtain ⟨entry, hentry, herror⟩ := List.mem_flatMap.mp herror
    have hrejected := Entry.errors_ne_nil_iff.mp (List.ne_nil_of_mem herror)
    exact ⟨entry, hentry, hrejected, herror, Entry.line_eq_of_mem_errors herror⟩
  ordered := by
    rw [List.pairwise_map, ofEntries, List.pairwise_flatMap]
    constructor
    · intro entry _
      apply List.pairwise_of_forall_mem_list
      intro first hfirst second hsecond
      exact Nat.le_of_eq ((Entry.line_eq_of_mem_errors hfirst).trans
        (Entry.line_eq_of_mem_errors hsecond).symm)
    · refine h.imp fun {entry other} hlt first hfirst second hsecond ↦ ?_
      rw [Entry.line_eq_of_mem_errors hfirst, Entry.line_eq_of_mem_errors hsecond]
      exact Nat.le_of_lt hlt

/-- Valid lines and refused ones are all the record lines. -/
theorem length_records_add (entries : List Entry) :
    (ofEntries entries).records.length + entries.countP (·.IsRejected) = entries.length := by
  have hvalid : (ofEntries entries).records.length = entries.countP (¬ ·.IsRejected) := by
    rw [ofEntries, List.length_filterMap_eq_countP]
    apply List.countP_congr
    intro entry _
    rw [Entry.isSome_record?_iff, decide_eq_true_eq]
  rw [hvalid, Nat.add_comm, List.length_eq_countP_add_countP (·.IsRejected)]
  simp

/-- The lines that are not among the records are those refused. -/
theorem invalid_ofEntries (entries : List Entry) :
    (ofEntries entries).invalid = entries.countP (·.IsRejected) := by
  have h := length_records_add entries
  rw [invalid]
  change entries.length - _ = _
  omega

theorem isClean_ofEntries_iff :
    (ofEntries entries).isClean = true ↔ entries.countP (·.IsRejected) = 0 := by
  rw [isClean, ofEntries, List.isEmpty_iff, List.flatMap_eq_nil_iff, List.countP_eq_zero]
  refine forall₂_congr fun entry _ ↦ ?_
  rw [decide_eq_true_eq, ← Entry.errors_ne_nil_iff, ne_eq, Classical.not_not]

end Report

end StubLibc.Log

namespace StubLibc.CommandLine

open Log (Entry Report)

variable {m : Type → Type} [Monad m] [LawfulMonad m]

/-! ## The command -/

/-- The text of what was read from a file. -/
def textOf (contents : Except FileFault Bytes) : Except FileFault String :=
  contents.bind fun bytes ↦
    match Utf8.decode? bytes with
    | some text => .ok text
    | none => .error .notText

/-- What the check of a log answers, by what was read from its file. -/
def validated (path : String) (contents : Except FileFault Bytes) : Result :=
  match textOf contents with
  | .ok text => reportResult path (Log.check text.toList)
  | .error fault => Result.failed "" ("failed to read " ++ path ++ ": " ++ fault.message)

/-- The command reads the file and does nothing else with the host. -/
theorem run_validateLog (host : Host m) {arguments : List String} {path : String}
    (h : Command.parse? arguments = some (.validateLog path)) :
    run host arguments = validated path <$> host.read path := by
  have hrun : run host arguments = validate host path := by
    rw [run, h]
    rfl
  rw [hrun, validate, map_eq_pure_bind]
  congr
  funext contents
  change (match textOf contents with | .ok text => _ | .error fault => _) = _
  unfold validated
  cases textOf contents <;> rfl

/-- A file that holds a text is checked as that text. -/
theorem validated_ofText (path text : String) :
    validated path (.ok (Bytes.ofText text)) = reportResult path (Log.check text.toList) := by
  have htext : textOf (.ok (Bytes.ofText text)) = .ok text := by
    rw [textOf, Except.bind, Utf8.decode?_ofText]
  rw [validated, htext]

/-- A file at the root is found by its name. -/
theorem Files.read_log (bytes : Bytes) :
    Files.read { contents := [(["log"], bytes)] } "log" = .ok bytes := by
  have hcomponents : Files.components "log" = ["log"] := by cbv
  unfold Files.read Files.locate
  rw [hcomponents]
  rfl

theorem status_reportResult (path : String) (report : Report) :
    (reportResult path report).status = if report.isClean then 0 else 1 := by
  unfold reportResult
  dsimp only
  split <;> rfl

theorem stderr_reportResult (path : String) {report : Report} (h : report.isClean = false) :
    ∃ before, (reportResult path report).stderr =
      before ++ "error: " ++ Numeral.ofNat report.invalid ++ " of " ++
        Numeral.ofNat report.lines ++ " log lines failed validation\n" := by
  have hend : " log lines failed validation\n" = " log lines failed validation" ++ "\n" := by decide
  unfold reportResult
  dsimp only
  rw [h, if_neg Bool.false_ne_true, Result.failed, hend]
  -- What comes before the message are the complaints and the list of traps.
  generalize String.join _ ++ _ = before
  refine ⟨before, ?_⟩
  simp only [String.append_assoc]

end StubLibc.CommandLine

namespace StubLibc.Log

open CommandLine (Command Files Host)
open Diagnostic (Record)

/-- The counts of a report add up, whatever the text.  Its lines are the record lines of the log,
its records those of them that are valid, in their order, and its complaints those about the others,
of which each has at least one, under their own numbers and in the order of these.  It is clean
exactly when it has as many records as lines, and never has more.  The command that checks the log
reads it and fails exactly when a line was refused; it then says how many of how many lines were. -/
theorem check_addsUp (text : String) :
    let lines := entries text.toList
    let report := check text.toList
    report.AddsUp lines ∧
      (report.isClean = true ↔ report.records.length = report.lines) ∧
      report.records.length ≤ report.lines ∧
      (∀ {m : Type → Type} [Monad m] [LawfulMonad m] (host : Host m) {arguments path},
        Command.parse? arguments = some (.validateLog path) →
          CommandLine.run host arguments = CommandLine.validated path <$> host.read path) ∧
      ∀ path, let result := CommandLine.validated path (.ok (Bytes.ofText text))
        let rejected := lines.countP (·.IsRejected)
        (result.status ≠ 0 ↔ ∃ line ∈ lines, line.IsRejected) ∧
          (result.status ≠ 0 → 1 ≤ rejected ∧ ∃ before, result.stderr =
            before ++ "error: " ++ Numeral.ofNat rejected ++ " of " ++
              Numeral.ofNat lines.length ++ " log lines failed validation\n") := by
  intro lines report
  have hreport : report = Report.ofEntries lines := check_eq text.toList
  have hadds : report.AddsUp lines :=
    hreport ▸ Report.addsUp_ofEntries (pairwise_number_entriesFrom 1 _)
  have hlength := Report.length_records_add lines
  rw [← hreport, ← hadds.lines_eq] at hlength
  have hclean : report.isClean = true ↔ lines.countP (·.IsRejected) = 0 :=
    hreport ▸ Report.isClean_ofEntries_iff
  refine ⟨hadds, hclean.trans (by omega), by omega, ?_, fun path ↦ ?_⟩
  · intro m _ _ host arguments path hcommand
    exact CommandLine.run_validateLog host hcommand
  intro result rejected
  have hresult : result = CommandLine.reportResult path report :=
    CommandLine.validated_ofText path text
  have hstatus : result.status ≠ 0 ↔ 0 < rejected := by
    rw [hresult, CommandLine.status_reportResult, Nat.pos_iff_ne_zero, ne_eq, ne_eq, ← hclean]
    cases report.isClean <;> simp
  refine ⟨?_, fun hfails ↦ ⟨hstatus.mp hfails, ?_⟩⟩
  · rw [hstatus, List.countP_pos_iff]
    simp only [decide_eq_true_eq]
  · have hunclean : report.isClean = false := by
      rw [Bool.eq_false_iff, ne_eq, hclean]
      exact Nat.pos_iff_ne_zero.mp (hstatus.mp hfails)
    have hinvalid : report.invalid = rejected := hreport ▸ Report.invalid_ofEntries lines
    have hstderr := CommandLine.stderr_reportResult path hunclean
    rwa [← hresult, hinvalid, hadds.lines_eq] at hstderr

/-- Run on a file with a blank line, other output and three record lines, the first of which breaks
two rules and the second of which is cut off. -/
theorem check_addsUp_refused :
    let log := "\n\x7b\"level\":\"info\",\"event\":\"exit_requested\"\x7d\nhello\n \x7b\n" ++
      (Record.unimplemented "strdup").line .jsonl
    let files : Files := { contents := [(["log"], Bytes.ofText log)] }
    let result := (CommandLine.run (Files.host []) ["validate-log", "--log", "log"] files).1
    let report := check log.toList
    report.lines = 3 ∧ report.records = [Record.unimplemented "strdup"] ∧
      report.errors.map LineError.line = [2, 2, 4] ∧ result.status ≠ 0 ∧
      ∃ before, result.stderr =
        before ++ "error: " ++ "2" ++ " of " ++ "3" ++ " log lines failed validation\n" := by
  intro log files result report
  obtain ⟨hadds, -, -, hcommand, hfails⟩ := check_addsUp log
  have hreport : (report.lines, report.records, report.errors.map LineError.line) =
      (3, [Record.unimplemented "strdup"], [2, 2, 4]) := by
    decide +kernel
  obtain ⟨hthree, hrecords, hnumbers⟩ := by simpa only [Prod.mk.injEq] using hreport
  have hlines : (entries log.toList).length = 3 := hadds.lines_eq.symm.trans hthree
  have hrejected : (entries log.toList).countP (·.IsRejected) = 2 := by
    rw [← Report.invalid_ofEntries, ← check_eq, Report.invalid, hthree, hrecords]
    rfl
  have hparse : Command.parse? ["validate-log", "--log", "log"] = some (.validateLog "log") := by
    decide +kernel
  have hresult : result = CommandLine.validated "log" (.ok (Bytes.ofText log)) := by
    dsimp only [result]
    rw [hcommand (Files.host []) hparse]
    change CommandLine.validated "log" (files.read "log") = _
    rw [Files.read_log]
  have hrefused : ∃ line ∈ entries log.toList, line.IsRejected := by
    obtain ⟨line, hline, h⟩ := List.countP_pos_iff.mp (hrejected ▸ Nat.two_pos)
    exact ⟨line, hline, of_decide_eq_true h⟩
  obtain ⟨hstatus, hmessage⟩ := hfails "log"
  rw [← hresult] at hstatus
  rw [← hresult, hlines, hrejected] at hmessage
  have htwoShown : Numeral.ofNat 2 = "2" := by decide +kernel
  have hthreeShown : Numeral.ofNat 3 = "3" := by decide +kernel
  rw [htwoShown, hthreeShown] at hmessage
  have hfailed := hstatus.mpr hrefused
  exact ⟨hthree, hrecords, hnumbers, hfailed, (hmessage hfailed).2⟩

end StubLibc.Log
