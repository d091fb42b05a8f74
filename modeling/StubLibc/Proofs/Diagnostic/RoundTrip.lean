import StubLibc.Proofs.Diagnostic.Layouts

/-!
# Records read back

A diagnostic record that is written as a JSON document is one of its own layouts.  It is therefore
read back as the same record, whatever its texts hold and whichever of its optional fields are
absent, and so is its line in a log.
-/

namespace StubLibc.Diagnostic

open Json Json.Scan

namespace Record

variable (record : Record)

/-- The member that is written for a field, under its name. -/
def namedMember? (field : Field) : Option (String × Part .object) :=
  (record.value? field).map fun value ↦ (field.key, .written field.key (quote value))

/-- The members that are written for a record. -/
def namedMembers : List (String × Part .object) := Field.all.filterMap record.namedMember?

theorem exists_of_mem_namedMembers {entry : String × Part .object}
    (h : entry ∈ record.namedMembers) :
    ∃ field value, record.value? field = some value ∧
      entry = (field.key, .written field.key (quote value)) := by
  obtain ⟨field, -, hentry⟩ := List.mem_filterMap.mp h
  obtain ⟨value, hvalue, rfl⟩ := Option.map_eq_some_iff.mp hentry
  exact ⟨field, value, hvalue, rfl⟩

theorem names_of_mem_namedMembers {entry : String × Part .object}
    (h : entry ∈ record.namedMembers) : entry.2.Names entry.1 := by
  obtain ⟨field, value, -, rfl⟩ := record.exists_of_mem_namedMembers h
  exact Part.names_written _ _

theorem nodup_namedMembers : (record.namedMembers.map Prod.fst).Nodup := by
  have hall : Field.all.Nodup := by decide
  rw [List.Nodup, List.pairwise_map]
  refine List.Pairwise.filterMap _ (fun field other hne entry hentry known hknown ↦ ?_) hall
  obtain ⟨value, -, rfl⟩ := Option.map_eq_some_iff.mp hentry
  obtain ⟨value, -, rfl⟩ := Option.map_eq_some_iff.mp hknown
  exact fun hkey ↦ hne (Field.key_injective hkey)

/-- What is written for a record is one of its layouts. -/
theorem writtenBy_namedMembers : record.WrittenBy (record.namedMembers.map Prod.snd) where
  shown := by
    intro part hpart
    obtain ⟨entry, hentry, rfl⟩ := List.mem_map.mp hpart
    obtain ⟨field, value, hvalue, rfl⟩ := record.exists_of_mem_namedMembers hentry
    refine .inl ⟨field, Part.names_written _ _, ?_⟩
    rw [hvalue]
    exact .some (spells_escape _)
  once := once_of_nodup (fun _ ↦ record.names_of_mem_namedMembers) record.nodup_namedMembers
  complete := by
    intro field hfield
    obtain ⟨value, hvalue⟩ := Option.ne_none_iff_exists'.mp hfield
    have hentry : record.namedMember? field =
        some (field.key, .written field.key (quote value)) := by
      rw [namedMember?, hvalue, Option.map_some]
    have hmem := List.mem_filterMap.mpr ⟨field, field.mem_all, hentry⟩
    exact ⟨_, List.mem_map_of_mem hmem, Part.names_written _ _⟩

/-- The document of a record as an object of the grammar, with white space after it. -/
def layout (after : Blank) : Object where
  before := ⟨[], isBlank_nil⟩
  parts := record.namedMembers.map Prod.snd
  isValue := by
    intro part hpart
    obtain ⟨entry, hentry, rfl⟩ := List.mem_map.mp hpart
    obtain ⟨field, value, -, rfl⟩ := record.exists_of_mem_namedMembers hentry
    exact .string (spells_escape _).isBody
  after := after

theorem text_layout (after : Blank) :
    (record.layout after).text = record.document.compact ++ after.val := by
  obtain ⟨level, event, symbol, family, detail⟩ := record
  cases symbol <;> cases family <;> cases detail <;>
    simp [layout, Object.text, namedMembers, namedMember?, Field.all, value?, Part.text_written,
      List.filterMap_cons, document, member, Document.compact, Document.compactMembers, Field.key]

theorem parse_document_append (after : Blank) :
    parse (record.document.compact ++ after.val) = .ok record := by
  rw [← text_layout]
  exact record.writtenBy_namedMembers.parse_text

/-- Reading inverts writing. -/
theorem parse_document (record : Record) : parse record.document.compact = .ok record := by
  have hparse := record.parse_document_append ⟨[], isBlank_nil⟩
  rwa [List.append_nil] at hparse

/-- The line of a record is read back with its end. -/
theorem parse_line : parse (record.line .jsonl).toList = .ok record := by
  rw [line, String.toList_ofList]
  exact record.parse_document_append ⟨['\n'], List.forall_mem_singleton.mpr rfl⟩

end Record

end StubLibc.Diagnostic
