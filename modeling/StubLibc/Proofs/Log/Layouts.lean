import StubLibc.Log.Check
import StubLibc.Proofs.Diagnostic.RoundTrip

/-!
# Log lines in any layout

What is said of a log line depends on the record that the line holds, and not on how the line says
it.  A line that says something of its record twice is refused.
-/

namespace StubLibc.Log

open Diagnostic (Field Record Repeats)
open Json Json.Scan

/-- What is said of a line depends on what its record says and not on how it is written, as long as
its keys are texts, and a line that says something twice is not accepted. -/
theorem checkLine_layout (object : Json.Object) (number : Nat) :
    (∀ record : Record, record.WrittenBy object.parts →
      Record.parse object.text = .ok record ∧
        checkLine object.text number = checkLine (record.line .jsonl).toList number) ∧
      ∀ field : Field, Repeats object.parts field.key →
        ∀ record, checkLine object.text number ≠ .ok record := by
  constructor
  · intro record h
    have hparse := h.parse_text
    refine ⟨hparse, ?_⟩
    rw [checkLine, checkLine, hparse, record.parse_line]
  · intro field h record hcheck
    rw [checkLine] at hcheck
    split at hcheck
    · cases hcheck
    · rename_i found hparse
      exact Diagnostic.parse_repeats h found hparse

theorem spellsChar_l : SpellsChar ['\\', 'u', '0', '0', '6', 'c'] 'l' :=
  .code (rfl : ['0', '0', '6', 'c'].length = 4) (by decide) (by decide) (by decide)

theorem spells_level : Spells ['\\', 'u', '0', '0', '6', 'c', 'e', 'v', 'e', 'l'] "level".toList :=
  .cons spellsChar_l (spells_escape ['e', 'v', 'e', 'l'])

/-- A value that nothing asks for, an escaped text, a field that is null, and an escaped name. -/
def sampleMembers : List (String × Part .object) :=
  [("x", .written "x" ['[', '\x7b', '"', 'l', 'e', 'v', 'e', 'l', '"', ':', '0', '\x7d', ']']),
    ("symbol", .written "symbol" (quoted ['\\', 'u', '0', '0', '6', 'c'])),
    ("detail", .written "detail" ['n', 'u', 'l', 'l']),
    ("event", .written "event" (quote "unimplemented")),
    ("level", .plain _ spells_level.isBody (quote "fatal"))]

theorem names_sampleMembers : ∀ entry ∈ sampleMembers, entry.2.Names entry.1 := by
  simp only [sampleMembers, List.forall_mem_cons]
  exact ⟨Part.names_written _ _, Part.names_written _ _, Part.names_written _ _,
    Part.names_written _ _, Part.names_plain spells_level _, nofun⟩

theorem isValue_sampleMembers : ∀ part ∈ sampleMembers.map Prod.snd, IsValue part.value := by
  have hzero : IsUnsigned (['0'] ++ ([] ++ [])) := .mk (.inl rfl) (.inl rfl) (.inl rfl)
  have hobject := isValue_singleton (.written "level" ['0']) (.number (.unsigned hzero))
  have hlist := isValue_singleton ⟨.item ⟨[], isBlank_nil⟩, _, ⟨[], isBlank_nil⟩⟩ hobject
  simp only [sampleMembers, List.map_cons, List.forall_mem_cons]
  exact ⟨hlist, .string (Spells.cons spellsChar_l .nil).isBody, .word (by decide),
    .string (spells_escape _).isBody, .string (spells_escape _).isBody, nofun⟩

theorem writtenBy_sampleMembers :
    Record.WrittenBy ⟨.fatal, .unimplemented, some "l", none, none⟩
      (sampleMembers.map Prod.snd) where
  shown := by
    have hsymbol : Spells ['\\', 'u', '0', '0', '6', 'c'] "l".toList := .cons spellsChar_l .nil
    simp only [sampleMembers, List.map_cons, List.forall_mem_cons]
    exact ⟨.inr ⟨"x", Part.names_written _ _, by rintro ⟨⟩ <;> decide⟩,
      .inl ⟨.symbol, Part.names_written _ _, .some hsymbol⟩,
      .inl ⟨.detail, Part.names_written _ _, .none⟩,
      .inl ⟨.event, Part.names_written _ _, .some (spells_escape _)⟩,
      .inl ⟨.level, Part.names_plain spells_level _, .some (spells_escape _)⟩, nofun⟩
  once := Diagnostic.once_of_nodup names_sampleMembers (by decide)
  complete := by
    intro field hvalue
    have hkey : field.key ∈ sampleMembers.map Prod.fst := by
      cases field with
      | family => exact absurd rfl hvalue
      | _ => decide
    obtain ⟨entry, hmem, hfirst⟩ := List.mem_map.mp hkey
    rw [← hfirst]
    exact ⟨entry.2, List.mem_map_of_mem hmem, names_sampleMembers entry hmem⟩

/-- The sample as a line. -/
def sampleLayout : Json.Object where
  before := ⟨[], isBlank_nil⟩
  parts := sampleMembers.map Prod.snd
  isValue := isValue_sampleMembers
  after := ⟨[], isBlank_nil⟩

theorem checkLine_layout_escaped :
    sampleLayout.text =
        ("\x7b\"x\":[\x7b\"level\":0\x7d],\"symbol\":\"\\u006c\",\"detail\":null," ++
          "\"event\":\"unimplemented\",\"\\u006cevel\":\"fatal\"\x7d").toList ∧
      checkLine sampleLayout.text 7 = .ok ⟨.fatal, .unimplemented, some "l", none, none⟩ := by
  obtain ⟨hparse, -⟩ := (checkLine_layout sampleLayout 7).1 _ writtenBy_sampleMembers
  have hcomplaints : complaints ⟨.fatal, .unimplemented, some "l", none, none⟩ = [] := by
    decide +kernel
  refine ⟨by decide +kernel, ?_⟩
  simp only [checkLine, hparse, hcomplaints]

/-- A member whose key is one half of a surrogate pair. -/
def unpairedMember : Part .object :=
  .plain ['\\', 'u', 'd', '8', '0', '0']
    (.cons (.code (rfl : ['d', '8', '0', '0'].length = 4) (by decide)) .nil) ['0']

/-- Such a key is no name, of a field or of anything else. -/
theorem not_names_unpairedMember (name : String) : ¬ unpairedMember.Names name := by
  intro hname
  have hfault : string.run (unpairedMember.key ++ ['"'] ++ []) = .error .unpairedSurrogate := rfl
  cases hfault.symm.trans (reads_string hname [])

theorem isValue_unpairedMember : IsValue unpairedMember.value := by
  have hzero : IsUnsigned (['0'] ++ ([] ++ [])) := .mk (.inl rfl) (.inl rfl) (.inl rfl)
  exact .number (.unsigned hzero)

/-- The sample with this member behind its own. -/
def unpairedLayout : Json.Object where
  before := ⟨[], isBlank_nil⟩
  parts := sampleMembers.map Prod.snd ++ [unpairedMember]
  isValue := List.forall_mem_append.mpr
    ⟨isValue_sampleMembers, List.forall_mem_singleton.mpr isValue_unpairedMember⟩
  after := ⟨[], isBlank_nil⟩

/-- Not every member can stand among the fields of a record: one whose key is no text makes the line
that holds it unreadable, though it names no field. -/
theorem checkLine_layout_unpaired :
    let record : Record := ⟨.fatal, .unimplemented, some "l", none, none⟩
    record.WrittenBy (sampleMembers.map Prod.snd) ∧
      (∀ field : Field, ¬ unpairedMember.Names field.key) ∧
      checkLine unpairedLayout.text 1 = .error [⟨1, .notARecord .unpairedSurrogate⟩] ∧
      checkLine (record.line .jsonl).toList 1 = .ok record := by
  intro record
  have hcomplaints : complaints record = [] := by decide +kernel
  refine ⟨writtenBy_sampleMembers, fun field ↦ not_names_unpairedMember field.key, rfl, ?_⟩
  simp only [checkLine, record.parse_line, hcomplaints]

end StubLibc.Log
