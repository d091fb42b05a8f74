import StubLibc.Proofs.Log.Rules
import StubLibc.Proofs.Session.Occasions
import StubLibc.Proofs.Text.Encoding

/-!
# Diagnostics and lines

A record is written as one line in the JSON form, whatever its texts hold.  The text form shows a
label, a path or a command as it is, so there each line feed that the hosted program gave makes
one more line, and these are all the line feeds beside the one at the end.
-/

namespace StubLibc

open Diagnostic (Record)

/-- The bytes are one line: the only line feed is the last byte. -/
def Bytes.IsLine (bytes : Bytes) : Prop :=
  ∃ body, bytes = body ++ [0x0A] ∧ 0x0A ∉ body

theorem Bytes.isLine_append_iff {body : Bytes} : IsLine (body ++ [0x0A]) ↔ 0x0A ∉ body := by
  constructor
  · rintro ⟨other, hother, hfree⟩
    rwa [List.append_cancel_right hother]
  · exact fun hfree ↦ ⟨body, rfl, hfree⟩

theorem NoControl.count_lineFeed {text : List Char} (h : NoControl text) :
    text.count '\n' = 0 := by
  rw [List.count_eq_zero]
  exact fun hmem ↦ absurd (h '\n' hmem) (by decide)

/-! ## The two forms -/

namespace Diagnostic.Record

/-- The line of a record without its end. -/
def body (log : LogFormat) (record : Record) : String :=
  match log with
  | .text => record.text
  | .jsonl => String.ofList record.document.compact

theorem bytes_eq (log : LogFormat) (record : Record) :
    record.bytes log = Bytes.ofText (record.body log) ++ [0x0A] := by
  have hend : Bytes.ofText "\n" = [0x0A] := by decide
  cases log with
  | text => exact (Bytes.ofText_append record.text "\n").trans (congrArg _ hend)
  | jsonl => exact record.bytes_jsonl

theorem isLine_bytes_iff {log : LogFormat} {record : Record} :
    Bytes.IsLine (record.bytes log) ↔ (record.body log).toList.count '\n' = 0 := by
  rw [bytes_eq, Bytes.isLine_append_iff, ← List.count_eq_zero, Bytes.count_lineFeed_ofText]

theorem count_lineFeed_body_jsonl (record : Record) :
    (record.body .jsonl).toList.count '\n' = 0 := by
  rw [body, String.toList_ofList]
  exact (Json.Document.noControl_compact record.document).count_lineFeed

end Diagnostic.Record

theorem Capability.count_lineFeed_symbol (capability : Capability) :
    capability.symbol.toList.count '\n' = 0 := by
  cases capability <;> decide +kernel

theorem Numeral.count_lineFeed_ofInt (n : Int) : (ofInt n).toList.count '\n' = 0 := by
  have hdigits := (noControl_digits .decimal n.natAbs).count_lineFeed
  unfold ofInt ofNat
  rw [← String.toList_ofList (l := digits .decimal n.natAbs)] at hdigits
  split
  · rw [String.toList_append, List.count_append, hdigits]
    rfl
  · exact hdigits

/-- A string is shown with the line feeds that it has. -/
theorem CString.count_lineFeed_display (pointer : Pointer) :
    (display pointer).toList.count '\n' = (bytes pointer).count 0x0A := by
  unfold display bytes
  cases bytes? pointer with
  | none => rfl
  | some text => exact Utf8.count_lineFeed_decodeLossy text

/-! ## Occasions -/

namespace Diagnostic.Occasion

/-- The bytes of the hosted program that the record tells of. -/
def callerText : Occasion → Bytes
  | trapped _ => []
  | unimplemented label => CString.bytes label
  | directory path => CString.bytes path
  | exitRequested _ => []
  | commandRequested command => CString.bytes command
  | readOver byte => [byte]

/-- The bytes of them that a form shows without escapes. -/
def shownText (log : LogFormat) (occasion : Occasion) : Bytes :=
  match log with
  | .text => occasion.callerText
  | .jsonl => []

theorem count_lineFeed_append {heading : String} (h : heading.toList.count '\n' = 0)
    (text : String) : (heading ++ text).toList.count '\n' = text.toList.count '\n' := by
  rw [String.toList_append, List.count_append, h, Nat.zero_add]

theorem count_lineFeed_text_directory (path : Pointer) :
    (directory path).record.text.toList.count '\n' = (CString.bytes path).count 0x0A := by
  let shown := Mkdir.shownPath (CString.bytes? path)
  have hshown : shown.toList.count '\n' = (CString.bytes path).count 0x0A :=
    CString.count_lineFeed_display path
  have htext : (directory path).record.text =
      if shown = "" then "TODO: mkdir" else "TODO: mkdir " ++ shown := rfl
  rw [htext, ← hshown]
  split
  · next hempty =>
    rw [hempty]
    decide +kernel
  · exact count_lineFeed_append (by decide +kernel) shown

/-- The text form has the line feeds that the hosted program gave, and no others. -/
theorem count_lineFeed_text (occasion : Occasion) :
    occasion.record.text.toList.count '\n' = occasion.callerText.count 0x0A := by
  have hheading : ∀ heading ∈ ["unimplemented: ", "exit: ", "system: ",
      "unknown format specifier: "], heading.toList.count '\n' = 0 := by decide +kernel
  cases occasion with
  | trapped capability =>
    calc
      _ = capability.symbol.toList.count '\n' :=
        count_lineFeed_append (hheading _ (by simp)) _
      _ = 0 := capability.count_lineFeed_symbol
  | unimplemented label =>
    calc
      _ = (CString.display label).toList.count '\n' :=
        count_lineFeed_append (hheading _ (by simp)) _
      _ = (CString.bytes label).count 0x0A := CString.count_lineFeed_display label
  | directory path => exact count_lineFeed_text_directory path
  | exitRequested status =>
    calc
      _ = (Numeral.ofInt status.toInt).toList.count '\n' :=
        count_lineFeed_append (hheading _ (by simp)) _
      _ = 0 := Numeral.count_lineFeed_ofInt status.toInt
  | commandRequested command =>
    calc
      _ = (CString.display command).toList.count '\n' :=
        count_lineFeed_append (hheading _ (by simp)) _
      _ = (CString.bytes command).count 0x0A := CString.count_lineFeed_display command
  | readOver byte =>
    calc
      _ = (String.singleton (Char.ofUInt8 byte)).toList.count '\n' :=
        count_lineFeed_append (hheading _ (by simp)) _
      _ = [Char.ofUInt8 byte].count '\n' := by rw [String.toList_singleton]
      _ = [byte].count 0x0A := by
        simp only [List.count_singleton, beq_iff_eq, Utf8.ofUInt8_eq_lineFeed_iff]

theorem count_lineFeed_body (log : LogFormat) (occasion : Occasion) :
    (occasion.record.body log).toList.count '\n' = (occasion.shownText log).count 0x0A := by
  cases log with
  | text => exact occasion.count_lineFeed_text
  | jsonl => exact occasion.record.count_lineFeed_body_jsonl

/-- The bytes of a record have the line feed at their end and those that its form shows. -/
theorem count_lineFeed_bytes (log : LogFormat) (occasion : Occasion) :
    (occasion.record.bytes log).count 0x0A = 1 + (occasion.shownText log).count 0x0A := by
  rw [Record.bytes_eq, List.count_append, Bytes.count_lineFeed_ofText, count_lineFeed_body,
    List.count_singleton_self, Nat.add_comm]

theorem isLine_bytes_iff {log : LogFormat} {occasion : Occasion} :
    Bytes.IsLine (occasion.record.bytes log) ↔ log = .jsonl ∨ 0x0A ∉ occasion.callerText := by
  rw [Record.isLine_bytes_iff, count_lineFeed_body, List.count_eq_zero]
  cases log with
  | text => exact (or_iff_right (by decide)).symm
  | jsonl => exact iff_of_true List.not_mem_nil (.inl rfl)

theorem count_lineFeed_sink (emitted : List (LogFormat × Occasion)) :
    (emitted.flatMap fun (log, occasion) ↦ occasion.record.bytes log).count 0x0A =
      emitted.length +
        (emitted.flatMap fun (log, occasion) ↦ occasion.shownText log).count 0x0A := by
  induction emitted with
  | nil => rfl
  | cons first rest ih =>
    obtain ⟨log, occasion⟩ := first
    simp only [List.flatMap_cons, List.count_append, List.length_cons, count_lineFeed_bytes, ih]
    omega

/-- The record of an occasion ends its line, and is one line exactly when it is in the JSON form or
the bytes that the hosted program gave have no line feed.  A sink of records in any forms has a line
for each of them, and one more for each line feed of the program that a text form shows.  This is
said of all records of the library: those of a call are made on occasions of that call. -/
theorem sink_lines (emitted : List (LogFormat × Occasion)) :
    let sink := emitted.flatMap fun (log, occasion) ↦ occasion.record.bytes log
    let shown := emitted.flatMap fun (log, occasion) ↦ occasion.shownText log
    (∀ (log : LogFormat) (occasion : Occasion),
      (occasion.record.bytes log).getLast? = some 0x0A ∧
        (Bytes.IsLine (occasion.record.bytes log) ↔
          log = .jsonl ∨ 0x0A ∉ occasion.callerText)) ∧
      sink.count 0x0A = emitted.length + shown.count 0x0A ∧
      ∀ (call : Call) (settings : Settings) (record : Record),
        .diagnostic record ∈ call.offers settings →
          ∃ occasion : Occasion, occasion.MadeBy call ∧ occasion.record = record := by
  intro sink shown
  refine ⟨?_, count_lineFeed_sink emitted, Call.offersMade⟩
  intro log occasion
  refine ⟨?_, isLine_bytes_iff⟩
  rw [Record.bytes_eq, List.getLast?_concat]

/-- A label with a line feed in it is two lines of the text form. -/
theorem unimplemented_two_lines :
    let label := CString.pointerTo (Bytes.ofAscii ['a', '\n', 'b'])
    let record := (Occasion.unimplemented label).record
    (Call.unimplemented label).offers {} = [.diagnostic record] ∧
      record.bytes .text = Bytes.ofText "unimplemented: a\nb\n" ∧
      ¬ Bytes.IsLine (record.bytes .text) := by
  intro label record
  have hbytes : record.bytes .text = Bytes.ofText "unimplemented: a\nb\n" := by decide +kernel
  have hbroken : 0x0A ∈ (Occasion.unimplemented label).callerText := by decide
  refine ⟨rfl, hbytes, ?_⟩
  rw [isLine_bytes_iff]
  rintro (hjsonl | hplain)
  · cases hjsonl
  · exact hplain hbroken

/-- The same label in the JSON form, after the request of an exit in the text form. -/
theorem exit_unimplemented_lines :
    let label := CString.pointerTo (Bytes.ofAscii ['a', '\n', 'b'])
    let emitted := [(LogFormat.text, Occasion.exitRequested 3), (.jsonl, .unimplemented label)]
    let request := Record.request .exit .exitRequested (Numeral.ofInt 3)
    .diagnostic request ∈ (Call.exit 3).offers {} ∧
      (∃ occasion : Occasion, occasion.MadeBy (Call.exit 3) ∧ occasion.record = request) ∧
      Bytes.IsLine ((Occasion.unimplemented label).record.bytes .jsonl) ∧
      (emitted.flatMap fun (log, occasion) ↦ occasion.record.bytes log).count 0x0A = 2 := by
  intro label emitted request
  have hoffered : .diagnostic request ∈ (Call.exit 3).offers {} := List.mem_cons_self
  obtain ⟨hlines, hsink, hmade⟩ := sink_lines emitted
  refine ⟨hoffered, hmade _ _ _ hoffered, (hlines .jsonl _).2.mpr (.inl rfl), ?_⟩
  rw [hsink]
  rfl

end Diagnostic.Occasion

end StubLibc
