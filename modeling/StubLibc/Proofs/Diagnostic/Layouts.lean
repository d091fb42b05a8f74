import StubLibc.Diagnostic.Parse
import StubLibc.Proofs.Json.Objects

/-!
# Records in any layout

A record is written as a JSON object in many ways: the fields come in any order, in any spelling,
with white space between them and with members of other names in between, and an absent field may be
left out or be null.  `Record.WrittenBy` says what these layouts have in common, and each of them is
read as the record.

While an object is read, the record under construction is told by the fields that have come so far.
No field comes twice in an object that is read to its end, whatever else the object holds.
-/

namespace StubLibc.Diagnostic

open Json Json.Scan Json.Schema

/-! ## Fields -/

/-- The fields of a record. -/
inductive Field where
  | level
  | event
  | symbol
  | family
  | detail
  deriving DecidableEq, Repr

namespace Field

def all : List Field := [level, event, symbol, family, detail]

theorem mem_all (field : Field) : field ∈ all := by
  cases field <;> decide

def key : Field → String
  | level => "level"
  | event => "event"
  | symbol => "symbol"
  | family => "api_family"
  | detail => "detail"

theorem key_injective : Function.Injective key := by
  intro field other h
  cases field <;> cases other <;> first | rfl | exact absurd h (by decide)

end Field

/-- What a record says in a field. -/
def Record.value? (record : Record) : Field → Option String
  | .level => some record.level.name
  | .event => some record.event.name
  | .symbol => record.symbol
  | .family => record.family.map Family.name
  | .detail => record.detail

/-- A text between quotes in some spelling, or null for none. -/
inductive Shows : Option String → List Char → Prop
  | some {value : String} {spelling : List Char} (h : Spells spelling value.toList) :
    Shows (some value) (quoted spelling)
  | none : Shows none ['n', 'u', 'l', 'l']

/-- The parts are the fields of the record, in any order and each at most once, and parts of other
names. -/
structure Record.WrittenBy (record : Record) (parts : List (Part .object)) : Prop where
  shown : ∀ part ∈ parts,
    (∃ field : Field, part.Names field.key ∧ Shows (record.value? field) part.value) ∨
      ∃ name, part.Names name ∧ ∀ field : Field, name ≠ field.key
  once : parts.Pairwise fun part other ↦
    ∀ field : Field, part.Names field.key → ¬ other.Names field.key
  complete : ∀ field, record.value? field ≠ none → ∃ part ∈ parts, part.Names field.key

/-! ## Drafts -/

/-- The draft of a record in which some fields have been read. -/
def Record.drafted (record : Record) (fields : List Field) : Draft where
  level := if .level ∈ fields then some record.level else none
  event := if .event ∈ fields then some record.event else none
  symbol := if .symbol ∈ fields then some record.symbol else none
  family := if .family ∈ fields then some record.family else none
  detail := if .detail ∈ fields then some record.detail else none

theorem join_ite {α : Type} {p : Prop} [Decidable p] {value : Option α} (h : value ≠ none → p) :
    (if p then some value else none).join = value := by
  by_cases hp : p
  · rw [if_pos hp, Option.join_some]
  · rw [if_neg hp]
    exact (Decidable.not_not.mp fun hvalue ↦ hp (h hvalue)).symm

theorem isSome_ite {α : Type} {p : Prop} [Decidable p] {value : α} :
    (if p then some value else none).isSome = decide p := by
  by_cases hp : p
  · rw [if_pos hp, Option.isSome_some, decide_eq_true hp]
  · rw [if_neg hp, Option.isSome_none, decide_eq_false hp]

/-- A draft with every field that the record has is complete. -/
theorem build_drafted {record : Record} {fields : List Field}
    (h : ∀ field, record.value? field ≠ none → field ∈ fields) :
    (record.drafted fields).build = .ok record := by
  have hlevel := h .level (Option.some_ne_none _)
  have hevent := h .event (Option.some_ne_none _)
  have hsymbol : _ = record.symbol := join_ite (h .symbol)
  have hfamily : _ = record.family :=
    join_ite fun hfamily ↦ h .family fun hnone ↦ hfamily (Option.map_eq_none_iff.mp hnone)
  have hdetail : _ = record.detail := join_ite (h .detail)
  simp only [Record.drafted, Draft.build, if_pos hlevel, if_pos hevent]
  rw [hsymbol, hfamily, hdetail]

/-- Puts a field of the record into a draft. -/
def Record.store (record : Record) : Field → Draft → Draft
  | .level, draft => { draft with level := some record.level }
  | .event, draft => { draft with event := some record.event }
  | .symbol, draft => { draft with symbol := some record.symbol }
  | .family, draft => { draft with family := some record.family }
  | .detail, draft => { draft with detail := some record.detail }

theorem store_drafted (record : Record) (field : Field) (fields : List Field) :
    record.store field (record.drafted fields) = record.drafted (field :: fields) := by
  cases field <;> simp [Record.store, Record.drafted]

/-! ## Members -/

theorem ofName_level (level : Level) : ofName Level.all Level.name level.name = .ok level := by
  cases level <;> rfl

theorem ofName_event (event : Event) : ofName Event.all Event.name event.name = .ok event := by
  cases event <;> rfl

theorem ofName_family (family : Family) :
    ofName Family.all Family.name family.name = .ok family := by
  cases family <;> rfl

/-- The member of the schema for a field. -/
def Field.member : Field → Member Draft
  | level => members.get ⟨0, by decide⟩
  | event => members.get ⟨1, by decide⟩
  | symbol => members.get ⟨2, by decide⟩
  | family => members.get ⟨3, by decide⟩
  | detail => members.get ⟨4, by decide⟩

theorem name_member (field : Field) : field.member.name = field.key := by
  cases field <;> rfl

theorem find?_key (field : Field) :
    (schema.members.find? fun member ↦ member.name == field.key) = some field.member := by
  cases field <;> rfl

theorem exists_field_of_mem {member : Member Draft} (h : member ∈ schema.members) :
    ∃ field : Field, member = field.member := by
  change member ∈ members at h
  simp only [members, List.mem_cons, List.not_mem_nil, or_false] at h
  rcases h with rfl | rfl | rfl | rfl | rfl
  · exact ⟨.level, rfl⟩
  · exact ⟨.event, rfl⟩
  · exact ⟨.symbol, rfl⟩
  · exact ⟨.family, rfl⟩
  · exact ⟨.detail, rfl⟩

theorem isSet_drafted (record : Record) (field : Field) (fields : List Field) :
    field.member.isSet (record.drafted fields) = decide (field ∈ fields) := by
  cases field <;> exact isSome_ite

variable {α : Type} {scan : Scan α} {value : Option α} {render : α → String} {written : List Char}

theorem reads_shownName {all : List α} {name : α → String} {value : α}
    (hname : ofName all name (name value) = .ok value) (h : Shows (some (name value)) written)
    {blank : List Char} (hblank : IsBlank blank) :
    (variant all name).Reads (blank ++ written) value := by
  obtain ⟨hspells⟩ := h
  rw [← String.ofList_toList (s := name value)] at hname
  exact reads_variant hblank hspells hname

theorem reads_shownText {value : String} (h : Shows (some value) written)
    {blank : List Char} (hblank : IsBlank blank) : Scan.text.Reads (blank ++ written) value := by
  obtain ⟨hspells⟩ := h
  have hread := reads_text hblank hspells
  rwa [String.ofList_toList] at hread

/-- A value that may be absent is read where it is shown, if the value itself is. -/
theorem reads_shownOption (h : Shows (value.map render) written)
    (hscan : ∀ value, Shows (some (render value)) written → scan.Reads written value)
    {blank : List Char} (hblank : IsBlank blank) :
    (orNull scan).Reads (blank ++ written) value := by
  cases value with
  | none =>
    cases h
    exact reads_orNull_null hblank
  | some value =>
    have hvalue := hscan value h
    cases h
    exact reads_orNull hblank rfl (by decide) hvalue

theorem reads_shownOptionText {value : Option String} (h : Shows value written)
    {blank : List Char} (hblank : IsBlank blank) :
    (orNull Scan.text).Reads (blank ++ written) value := by
  have hvalue : Shows (value.map id) written := by rwa [Option.map_id]
  exact reads_shownOption hvalue (fun _ h ↦ reads_shownText h isBlank_nil) hblank

/-- The reader of a field takes what shows the field, and stores it. -/
theorem reads_member {record : Record} {field : Field} (h : Shows (record.value? field) written)
    {blank : List Char} (hblank : IsBlank blank) :
    field.member.read.Reads (blank ++ written) (record.store field) := by
  cases field with
  | level => exact (reads_shownName (ofName_level _) h hblank).bind_nil (reads_pure _)
  | event => exact (reads_shownName (ofName_event _) h hblank).bind_nil (reads_pure _)
  | symbol => exact (reads_shownOptionText h hblank).bind_nil (reads_pure _)
  | family =>
    have hread :=
      reads_shownOption h (fun _ h ↦ reads_shownName (ofName_family _) h isBlank_nil) hblank
    exact hread.bind_nil (reads_pure _)
  | detail => exact (reads_shownOptionText h hblank).bind_nil (reads_pure _)

theorem enters_field {record : Record} {field : Field} {fields : List Field}
    {part : Part .object} (hname : part.Names field.key)
    (hshows : Shows (record.value? field) part.value) (hfresh : field ∉ fields) :
    schema.Enters (record.drafted fields) part (record.drafted (field :: fields)) := by
  have hset : field.member.isSet (record.drafted fields) = false := by
    rw [isSet_drafted, decide_eq_false hfresh]
  rw [← store_drafted]
  exact enters_member hname (find?_key field) hset (reads_member hshows)

/-! ## Layouts -/

theorem enters_other {part : Part .object} {name : String} (hname : part.Names name)
    (hother : ∀ field : Field, name ≠ field.key) (hvalue : IsValue part.value) (draft : Draft) :
    schema.Enters draft part draft := by
  have hfind : (schema.members.find? fun member ↦ member.name == name) = none := by
    rw [List.find?_eq_none]
    intro member hmember
    obtain ⟨field, rfl⟩ := exists_field_of_mem hmember
    rw [name_member, beq_iff_eq]
    exact (hother field).symm
  exact enters_unknown hname hvalue hfind

/-- Parts that show fields of a record which have not come yet lead to the draft with these. -/
theorem builds_drafted {record : Record} {parts : List (Part .object)}
    (hvalues : ∀ part ∈ parts, IsValue part.value)
    (hshown : ∀ part ∈ parts,
      (∃ field : Field, part.Names field.key ∧ Shows (record.value? field) part.value) ∨
        ∃ name, part.Names name ∧ ∀ field : Field, name ≠ field.key)
    (honce : parts.Pairwise fun part other ↦
      ∀ field : Field, part.Names field.key → ¬ other.Names field.key)
    (fields : List Field) (hfresh : ∀ part ∈ parts, ∀ field ∈ fields, ¬ part.Names field.key) :
    ∃ final, schema.Builds (record.drafted fields) parts (record.drafted final) ∧
      fields ⊆ final ∧ ∀ part ∈ parts, ∀ field : Field, part.Names field.key → field ∈ final := by
  induction parts generalizing fields with
  | nil => exact ⟨fields, .nil, List.Subset.refl _, nofun⟩
  | cons part parts ih =>
    rw [List.forall_mem_cons] at hvalues hshown hfresh
    rw [List.pairwise_cons] at honce
    obtain ⟨field, hname, hshows⟩ | ⟨name, hname, hother⟩ := hshown.1
    · have hnew : field ∉ fields := fun hmem ↦ hfresh.1 field hmem hname
      have hrest : ∀ other ∈ parts, ∀ known ∈ field :: fields, ¬ other.Names known.key := by
        intro other hmem
        rw [List.forall_mem_cons]
        exact ⟨honce.1 other hmem field hname, hfresh.2 other hmem⟩
      obtain ⟨final, hbuilds, hsubset, hnamed⟩ := ih hvalues.2 hshown.2 honce.2 _ hrest
      rw [List.cons_subset] at hsubset
      refine ⟨final, .cons (enters_field hname hshows hnew) hbuilds, hsubset.2, ?_⟩
      rw [List.forall_mem_cons]
      refine ⟨fun known hknown ↦ ?_, hnamed⟩
      rw [← Field.key_injective (hname.unique hknown)]
      exact hsubset.1
    · obtain ⟨final, hbuilds, hsubset, hnamed⟩ := ih hvalues.2 hshown.2 honce.2 _ hfresh.2
      refine ⟨final, .cons (enters_other hname hother hvalues.1 _) hbuilds, hsubset, ?_⟩
      rw [List.forall_mem_cons]
      exact ⟨fun known hknown ↦ absurd (hname.unique hknown) (hother known), hnamed⟩

theorem Record.WrittenBy.parse_text {record : Record} {object : Object}
    (h : record.WrittenBy object.parts) : Record.parse object.text = .ok record := by
  obtain ⟨final, hbuilds, -, hnamed⟩ := builds_drafted object.isValue h.shown h.once [] nofun
  have hcomplete : ∀ field, record.value? field ≠ none → field ∈ final := by
    intro field hvalue
    obtain ⟨part, hpart, hname⟩ := h.complete field hvalue
    exact hnamed part hpart field hname
  exact parse_object hbuilds (build_drafted hcomplete)

/-- Parts with different names say each field once at most. -/
theorem once_of_nodup {named : List (String × Part .object)}
    (hnames : ∀ entry ∈ named, entry.2.Names entry.1) (hnodup : (named.map Prod.fst).Nodup) :
    (named.map Prod.snd).Pairwise fun part other ↦
      ∀ field : Field, part.Names field.key → ¬ other.Names field.key := by
  rw [List.pairwise_map]
  refine (List.pairwise_map.mp hnodup).imp_of_mem fun hpart hother hne field hfirst hsecond ↦ hne ?_
  rw [(hnames _ hpart).unique hfirst, (hnames _ hother).unique hsecond]

/-! ## Repetitions -/

theorem exists_of_run_store {store : α → Draft → Draft} {text rest : List Char}
    {stored : Draft → Draft}
    (h : (scan >>= fun value ↦ pure (store value)).run text = .ok (stored, rest)) :
    ∃ value, stored = store value := by
  obtain ⟨value, middle, -, hpure⟩ := exists_of_run_bind h
  cases hpure
  exact ⟨value, rfl⟩

theorem takesValue_member (field : Field) : field.member.read.TakesValue := by
  cases field with
  | level => exact (takesValue_variant _ _).map _
  | event => exact (takesValue_variant _ _).map _
  | symbol => exact (takesValue_orNull takesValue_text).map _
  | family => exact (takesValue_orNull (takesValue_variant _ _)).map _
  | detail => exact (takesValue_orNull takesValue_text).map _

theorem isSet_of_run_read {field : Field} {text rest : List Char} {store : Draft → Draft}
    (h : field.member.read.run text = .ok (store, rest)) (other : Field) (draft : Draft) :
    other.member.isSet (store draft) = (decide (field = other) || other.member.isSet draft) := by
  cases field <;> obtain ⟨value, rfl⟩ := exists_of_run_store h <;> cases other <;> rfl

theorem lawful_schema : schema.Lawful where
  takesValue := by
    intro member hmember
    obtain ⟨field, rfl⟩ := exists_field_of_mem hmember
    exact takesValue_member field
  sets := by
    intro member hmember text rest store h draft
    obtain ⟨field, rfl⟩ := exists_field_of_mem hmember
    rw [isSet_of_run_read h, decide_eq_true rfl, Bool.true_or]
  keeps := by
    intro member hmember text rest store h other hother draft hset
    obtain ⟨field, rfl⟩ := exists_field_of_mem hmember
    obtain ⟨known, rfl⟩ := exists_field_of_mem hother
    rw [isSet_of_run_read h, hset, Bool.or_true]

/-- Two of the parts have the same name. -/
def Repeats (parts : List (Part .object)) (name : String) : Prop :=
  ∃ first second : Part .object, [first, second].Sublist parts ∧ first.Names name ∧
    second.Names name

theorem parse_repeats {object : Object} {field : Field} (h : Repeats object.parts field.key)
    (record : Record) : Record.parse object.text ≠ .ok record := by
  intro hparse
  obtain ⟨first, second, hsublist, hfirst, hsecond⟩ := h
  have honce := (once_of_parse lawful_schema hparse).distinct
  have hmember := List.mem_of_find?_eq_some (find?_key field)
  have hknows : schema.Knows field.key := ⟨field.member, hmember, name_member field⟩
  exact List.pairwise_iff_forall_sublist.mp honce hsublist hknows hfirst hsecond

end StubLibc.Diagnostic
