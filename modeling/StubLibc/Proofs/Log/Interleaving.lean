import Mathlib.Data.List.Basic
import StubLibc.Log.Report
import StubLibc.Proofs.Log.Rules
import StubLibc.Proofs.Text.Lines

/-!
# Logs among console output

A log and the hosted program's own output may share a console.  As long as both end their parts
with a line feed and no line of the output starts with an opening brace, the report of the whole
has just the records that were written, in their order: no text inside a record breaks its line or
starts another, and no output is taken for a record.
-/

namespace StubLibc

open Diagnostic (Record)

/-! ## Record lines -/

namespace Text

/-- A text in brackets has no white space at its ends. -/
theorem trim_bracketed {opening closing : Char} (hopening : isBlank opening = false)
    (hclosing : isBlank closing = false) (body : List Char) :
    trim (opening :: body ++ [closing]) = opening :: body ++ [closing] := by
  have hstart : (opening :: body ++ [closing]).dropWhile isBlank = opening :: body ++ [closing] :=
    List.dropWhile_cons_of_neg (by rw [hopening]; exact Bool.false_ne_true)
  have hend : (opening :: body ++ [closing]).reverse = closing :: (opening :: body).reverse := by
    rw [List.reverse_append, List.reverse_singleton, List.singleton_append]
  rw [trim, hstart, hend, List.dropWhile_cons_of_neg (by rw [hclosing]; exact Bool.false_ne_true),
    ← hend, List.reverse_reverse]

end Text

namespace Diagnostic.Record

/-- A record is written between braces. -/
theorem exists_compact_eq (record : Record) :
    ∃ body, record.document.compact = '\x7b' :: body ++ ['\x7d'] := by
  rw [document, Json.Document.compact]
  exact ⟨_, rfl⟩

theorem trim_compact (record : Record) :
    Text.trim record.document.compact = record.document.compact := by
  obtain ⟨body, hbody⟩ := record.exists_compact_eq
  rw [hbody]
  exact Text.trim_bracketed (by decide) (by decide) body

theorem isRecordLine_compact (record : Record) :
    Log.isRecordLine record.document.compact = true := by
  obtain ⟨body, hbody⟩ := record.exists_compact_eq
  rw [hbody]
  rfl

theorem toList_line_jsonl (record : Record) :
    (record.line .jsonl).toList = record.document.compact ++ ['\n'] :=
  String.toList_ofList

/-- No text in a record ends its line. -/
theorem lines_compact (record : Record) :
    Text.lines (record.document.compact ++ ['\n']) = [record.document.compact] := by
  apply Text.lines_of_unbroken
  intro c hc
  have hcontrol := Json.Document.noControl_compact record.document c hc
  constructor
  · rintro rfl
    exact absurd hcontrol (by decide)
  · rintro rfl
    exact absurd hcontrol (by decide)

end Diagnostic.Record

namespace Log

/-- A part of a log that shares a console with other output. -/
inductive Chunk where
  /-- A record that keeps the rules. -/
  | entry (record : Record) (holds : ∀ rule, Rule.Holds record rule)
  /-- Other output, in whole lines none of which looks like a record's. -/
  | noise (text : List Char) (ends : text.getLast? = some '\n')
    (quiet : ∀ line ∈ Text.lines text, isRecordLine (Text.trim line) = false)

namespace Chunk

/-- A chunk as it stands on the console. -/
def text : Chunk → List Char
  | entry record _ => (record.line .jsonl).toList
  | noise text _ _ => text

/-- The record of a chunk. -/
def record? : Chunk → Option Record
  | entry record _ => some record
  | noise _ _ _ => none

/-- Every chunk ends its last line. -/
theorem exists_text_eq (chunk : Chunk) : ∃ body, chunk.text = body ++ ['\n'] := by
  cases chunk with
  | entry record _ => exact ⟨record.document.compact, record.toList_line_jsonl⟩
  | noise text ends _ => exact List.getLast?_eq_some_iff.mp ends

theorem lines_append (chunk : Chunk) (rest : List Char) :
    Text.lines (chunk.text ++ rest) = Text.lines chunk.text ++ Text.lines rest := by
  obtain ⟨body, hbody⟩ := chunk.exists_text_eq
  rw [hbody, List.append_assoc, List.singleton_append, Text.lines_append]

end Chunk

/-! ## Reports -/

variable {number : Nat} {rest : List (List Char)}

/-- Other output only moves the numbers of the lines after it. -/
theorem checkLines_noise {noise : List (List Char)}
    (h : ∀ line ∈ noise, isRecordLine (Text.trim line) = false) (number : Nat)
    (rest : List (List Char)) :
    checkLines number (noise ++ rest) = checkLines (number + noise.length) rest := by
  induction noise generalizing number with
  | nil => rfl
  | cons line noise ih =>
    rw [List.forall_mem_cons] at h
    rw [List.cons_append, checkLines, h.1, ih h.2, List.length_cons, if_neg Bool.false_ne_true,
      Nat.add_assoc, Nat.add_comm 1]

theorem checkLines_record {record : Record} (h : ∀ rule, Rule.Holds record rule) (number : Nat)
    (rest : List (List Char)) :
    checkLines number (record.document.compact :: rest) =
      (checkLines (number + 1) rest).prepend (.ok record) := by
  have hvalid := (checkLine_eq_ok_iff record.parse_document number).mpr h
  rw [checkLines, record.trim_compact, record.isRecordLine_compact, hvalid]
  rfl

/-- From whatever number its lines are counted, a log of chunks has their records and no
complaints. -/
theorem checkLines_chunks (chunks : List Chunk) (number : Nat) :
    checkLines number (Text.lines (chunks.flatMap Chunk.text)) =
      { lines := (chunks.filterMap Chunk.record?).length
        records := chunks.filterMap Chunk.record?
        errors := [] } := by
  induction chunks generalizing number with
  | nil => rfl
  | cons chunk chunks ih =>
    rw [List.flatMap_cons, chunk.lines_append]
    cases chunk with
    | entry record holds =>
      have hline : Text.lines (Chunk.entry record holds).text = [record.document.compact] := by
        rw [Chunk.text, record.toList_line_jsonl, record.lines_compact]
      rw [hline, List.singleton_append, checkLines_record holds, ih]
      rfl
    | noise text ends quiet =>
      rw [Chunk.text, checkLines_noise quiet, ih]
      rfl

theorem exists_symbol_of_trap {record : Record} (h : ∀ rule, Rule.Holds record rule)
    (hevent : record.event = .unimplemented) : ∃ symbol, record.symbol = some symbol :=
  have hsymbol := h .symbol (hevent ▸ List.mem_cons_self)
  Option.ne_none_iff_exists'.mp hsymbol.1

/-- Where the records keep the rules, no trap is left out of the list of symbols. -/
theorem Report.map_some_trapped {report : Report}
    (h : ∀ record ∈ report.records, ∀ rule, Rule.Holds record rule) :
    report.trapped.map some =
      (report.records.filter fun record ↦ record.event = .unimplemented).map Record.symbol := by
  rw [trapped, List.map_filterMap]
  apply List.filterMap_eq_map_iff_forall_eq_some.mpr
  intro record hrecord
  obtain ⟨hmem, hevent⟩ := List.mem_filter.mp hrecord
  obtain ⟨symbol, hsymbol⟩ := exists_symbol_of_trap (h record hmem) (of_decide_eq_true hevent)
  rw [hsymbol]
  rfl

/-- A log in chunks has no complaints, however its records and the other output take turns.  Its
record lines are the records, each read back as it was written, in their order, and the traps that
it lists are the symbols of all trap records among them. -/
theorem check_chunks (chunks : List Chunk) :
    let records := chunks.filterMap Chunk.record?
    let report := check (chunks.flatMap Chunk.text)
    report.isClean = true ∧ report.lines = records.length ∧ report.records = records ∧
      report.trapped.map some =
        (records.filter fun record ↦ record.event = .unimplemented).map Record.symbol := by
  intro records report
  have hreport : report = ⟨records.length, records, []⟩ := checkLines_chunks chunks 1
  have hholds : ∀ record ∈ report.records, ∀ rule, Rule.Holds record rule := by
    intro record hrecord
    rw [hreport] at hrecord
    obtain ⟨chunk, _, hchunk⟩ := List.mem_filterMap.mp hrecord
    cases chunk with
    | entry _ holds =>
      cases hchunk
      exact holds
    | noise _ _ _ => cases hchunk
  have htrapped := Report.map_some_trapped hholds
  rw [hreport] at htrapped ⊢
  exact ⟨rfl, rfl, rfl, htrapped⟩

/-- A trap in the log, told of in a line of other output that ends in a carriage return, an exit
request behind a blank line, and a text that quotes a record. -/
theorem check_chunks_shared :
    let trap := Record.unimplemented "strdup"
    let request := Record.request .exit .exitRequested "a\n\x7b"
    let console := "unimplemented: strdup\r\n" ++ trap.line .jsonl ++
      "\n > \x7b\x7d\n" ++ request.line .jsonl
    let report := check console.toList
    report.isClean = true ∧ report.lines = 2 ∧ report.records = [trap, request] ∧
      report.trapped = ["strdup"] := by
  intro trap request console report
  let told := "unimplemented: strdup\r\n".toList
  let quoting := "\n > \x7b\x7d\n".toList
  have htrap : ∀ rule, Rule.Holds trap rule := by
    rintro (_ | _ | _) <;> decide +kernel
  have hrequest : ∀ rule, Rule.Holds request rule := by
    rintro (_ | _ | _) <;> decide +kernel
  have htold : ∀ line ∈ Text.lines told, isRecordLine (Text.trim line) = false := by decide +kernel
  have hquoting : ∀ line ∈ Text.lines quoting, isRecordLine (Text.trim line) = false := by
    decide +kernel
  let chunks : List Chunk :=
    [.noise told (by decide +kernel) htold, .entry trap htrap,
      .noise quoting (by decide +kernel) hquoting, .entry request hrequest]
  have hconsole : console.toList = chunks.flatMap Chunk.text := by
    simp [console, chunks, Chunk.text, told, quoting, String.toList_append]
  obtain ⟨hclean, hlines, hrecords, htrapped⟩ := check_chunks chunks
  rw [← hconsole] at hclean hlines hrecords htrapped
  have hsymbols : report.trapped.map some = ["strdup"].map some := htrapped
  exact ⟨hclean, hlines, hrecords, List.map_injective_iff.mpr (fun _ _ ↦ Option.some.inj) hsymbols⟩

end Log

end StubLibc
