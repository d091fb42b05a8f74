import StubLibc.Proofs.Json.Members
import StubLibc.Proofs.Json.Wanted

/-!
# Reading objects in any spelling

A record schema reads an object of the grammar part by part.  `Schema.Builds` says that parts lead a
record under construction from one state to another; an object whose parts build a record is read as
that record, however its tokens are spelled and spaced.

In the other direction a schema that is read at all has met each of its names once at most.  This
takes more than a look at the text, since a reader of wanted values has to stop where the grammar
does: `Schema.Lawful` says so of every member, and that a member which has been read stays set.
-/

namespace StubLibc.Json

open Scan

variable {α σ : Type}

/-! ## Members as they are written -/

namespace Part

/-- The key of a member, as it is spelled. -/
def key : Part .object → List Char
  | ⟨.member _ key _ _ _, _, _⟩ => key

/-- What stands in front of the key. -/
def beforeKey : Part .object → Blank
  | ⟨.member beforeKey _ _ _ _, _, _⟩ => beforeKey

/-- The colon and the value, with the white space around the colon. -/
def assignment : Part .object → List Char
  | ⟨.member _ _ _ beforeColon afterColon, value, _⟩ =>
    beforeColon ++ ':' :: (afterColon.val ++ value)

/-- The key spells the name. -/
def Names (part : Part .object) (name : String) : Prop := Spells part.key name.toList

theorem isBody_key (part : Part .object) : IsBody part.key := by
  obtain ⟨⟨⟩, value, closing⟩ := part
  assumption

theorem text_append (part : Part .object) (rest : List Char) :
    part.text ++ rest = part.beforeKey ++ '"' ::
      (part.key ++ '"' :: (part.assignment ++ (part.closing ++ rest))) := by
  obtain ⟨⟨⟩, value, closing⟩ := part
  simp [text, Opening.text, quoted, key, beforeKey, assignment]

theorem exists_assignment (part : Part .object) :
    ∃ beforeColon afterColon : Blank,
      part.assignment = beforeColon ++ ':' :: (afterColon.val ++ part.value) := by
  obtain ⟨⟨⟩, value, closing⟩ := part
  exact ⟨_, _, rfl⟩

/-- A key spells one name. -/
theorem Names.unique {part : Part .object} {name other : String} (h : part.Names name)
    (hother : part.Names other) : name = other := by
  have hname := reads_string h []
  have hothers := reads_string hother []
  rw [hname, Except.ok.injEq, Prod.mk.injEq] at hothers
  exact String.toList_injective hothers.1

/-- A member without white space. -/
def plain (key : List Char) (isBody : IsBody key) (value : List Char) : Part .object :=
  ⟨.member ⟨[], isBlank_nil⟩ key isBody ⟨[], isBlank_nil⟩ ⟨[], isBlank_nil⟩, value,
    ⟨[], isBlank_nil⟩⟩

/-- A member as the writer spells it. -/
def written (name : String) (value : List Char) : Part .object :=
  plain (name.toList.flatMap escape) (spells_escape _).isBody value

theorem names_plain {key : List Char} {name : String} (h : Spells key name.toList)
    (value : List Char) : (plain key h.isBody value).Names name :=
  h

theorem text_plain {key : List Char} (h : IsBody key) (value : List Char) :
    (plain key h value).text = quoted key ++ ':' :: value := by
  simp [plain, text, Opening.text, quoted]

theorem names_written (name : String) (value : List Char) : (written name value).Names name :=
  spells_escape _

theorem text_written (name : String) (value : List Char) :
    (written name value).text = quote name ++ ':' :: value :=
  text_plain _ value

end Part

/-- An object as it is written, with white space around it. -/
structure Object where
  before : Blank
  parts : List (Part .object)
  isValue : ∀ part ∈ parts, IsValue part.value
  after : Blank

def Object.text (object : Object) : List Char :=
  object.before ++ '\x7b' ::
    (Document.commaSeparated (object.parts.map Part.text) ++ '\x7d' :: object.after.val)

namespace Schema

variable {schema : Schema σ α} {state next final : σ}

/-! ## Steps -/

/-- What an object step does once the quote of a key has been taken. -/
def entry (schema : Schema σ α) (state : σ) : Scan ((Bool × σ) ⊕ σ) := do
  let key ← string
  let state ← schema.readMember state (String.ofList key)
  pure (.inl (false, state))

theorem run_objectStep_first (schema : Schema σ α) (state : σ) (part : Part .object)
    (rest : List Char) :
    (schema.objectStep (true, state)).run (part.text ++ rest) =
      (schema.entry state).run
        (part.key ++ '"' :: (part.assignment ++ (part.closing ++ rest))) := by
  rw [part.text_append, objectStep]
  rw [run_bind, run_token part.beforeKey.property rfl]
  rfl

theorem run_objectStep_next (schema : Schema σ α) (state : σ) {gap : List Char}
    (hgap : IsBlank gap) (part : Part .object) (rest : List Char) :
    (schema.objectStep (false, state)).run (gap ++ ',' :: (part.text ++ rest)) =
      (schema.entry state).run
        (part.key ++ '"' :: (part.assignment ++ (part.closing ++ rest))) := by
  have hkey : (openKey false ',').run (',' :: (part.text ++ rest)) =
      .ok ((), part.key ++ '"' :: (part.assignment ++ (part.closing ++ rest))) := by
    have hopen := reads_openKey_next part.beforeKey.property
      (part.key ++ '"' :: (part.assignment ++ (part.closing ++ rest)))
    rwa [List.cons_append, List.append_assoc, List.singleton_append, ← part.text_append] at hopen
  rw [objectStep, run_bind, run_token hgap rfl]
  exact run_bind_of_ok hkey _

/-! ## Objects that are read -/

/-- A part leads the record under construction from one state to the next. -/
def Enters (schema : Schema σ α) (state : σ) (part : Part .object) (next : σ) : Prop :=
  ∀ ⦃rest : List Char⦄, EndsNumber rest →
    (schema.entry state).run (part.key ++ '"' :: (part.assignment ++ rest)) =
      .ok (.inl (false, next), rest)

/-- Parts lead the record under construction from one state to another. -/
inductive Builds (schema : Schema σ α) : σ → List (Part .object) → σ → Prop
  | nil {state : σ} : Builds schema state [] state
  | cons {state next final : σ} {part : Part .object} {more : List (Part .object)}
    (hpart : schema.Enters state part next) (hmore : Builds schema next more final) :
    Builds schema state (part :: more) final

theorem enters_of_run {part : Part .object} {name : String} (hname : part.Names name)
    (h : ∀ {rest : List Char}, EndsNumber rest →
      (schema.readMember state name).run (part.assignment ++ rest) = .ok (next, rest)) :
    schema.Enters state part next := by
  intro rest hrest
  have hkey := reads_string hname (part.assignment ++ rest)
  rw [List.append_assoc, List.singleton_append] at hkey
  rw [entry, run_bind_of_ok hkey, String.ofList_toList, run_bind_of_ok (h hrest)]
  rfl

/-- A member of the schema that has not come yet is stored. -/
theorem enters_member {part : Part .object} {name : String} {member : Member σ} {store : σ → σ}
    (hname : part.Names name)
    (hfind : (schema.members.find? fun member ↦ member.name == name) = some member)
    (hset : member.isSet state = false)
    (hread : ∀ {blank : List Char}, IsBlank blank → member.read.Reads (blank ++ part.value) store) :
    schema.Enters state part (store state) := by
  apply enters_of_run hname
  intro rest _
  obtain ⟨beforeColon, afterColon, hassignment⟩ := part.exists_assignment
  rw [hassignment]
  exact reads_readMember beforeColon.property hfind hset (hread afterColon.property) rest

/-- A value under a name that is none of the schema's is passed over. -/
theorem enters_unknown {part : Part .object} {name : String} (hname : part.Names name)
    (hvalue : IsValue part.value)
    (hfind : (schema.members.find? fun member ↦ member.name == name) = none) :
    schema.Enters state part state := by
  apply enters_of_run hname
  intro rest hrest
  obtain ⟨beforeColon, afterColon, hassignment⟩ := part.exists_assignment
  have hcolon := run_colon beforeColon.property (afterColon.val ++ (part.value ++ rest))
  have hskip := run_skipValue afterColon.property hvalue fun _ ↦ hrest
  rw [hassignment, readMember, hfind, List.append_assoc, List.cons_append, List.append_assoc,
    run_bind_of_ok hcolon, run_bind_of_ok hskip]
  rfl

/-- A step that comes to the key of a part goes on after the part. -/
theorem leads_of_enters {progress : Bool × σ} {part : Part .object} {text more rest : List Char}
    (hstep : (schema.objectStep progress).run text =
      (schema.entry state).run (part.key ++ '"' :: (part.assignment ++ (part.closing ++ more))))
    (hlength : (part.text ++ more).length ≤ text.length) (hpart : schema.Enters state part next)
    (hmore : EndsNumber more)
    (hloop : (loop schema.objectStep (false, next)).run (part.closing ++ more) =
      .ok (final, rest)) :
    Leads schema.objectStep (schema.objectStep progress) text final rest := by
  refine ⟨.inl (false, next), part.closing ++ more, ?_, ?_, hloop⟩
  · rw [hstep]
    exact hpart (hmore.blank part.closing.property)
  · rw [part.text_append] at hlength
    simp only [List.length_append, List.length_cons] at hlength ⊢
    omega

theorem run_objectEnd {isFirst : Bool} {gap : List Char} (hgap : IsBlank gap) (rest : List Char) :
    (loop schema.objectStep (isFirst, state)).run (gap ++ '\x7d' :: rest) = .ok (state, rest) := by
  have hend : (loop schema.objectStep (isFirst, state)).Reads (gap ++ ['\x7d']) state :=
    reads_loop_done (reads_objectStep_end hgap)
  rw [← List.singleton_append, ← List.append_assoc]
  exact hend rest

/-- What is left of an object after one of its parts. -/
theorem run_objectParts {parts : List (Part .object)} (h : schema.Builds state parts final)
    {gap : List Char} (hgap : IsBlank gap) (rest : List Char) :
    (loop schema.objectStep (false, state)).run
      (gap ++ ((parts.map Part.text).flatMap (',' :: ·) ++ '\x7d' :: rest)) =
        .ok (final, rest) := by
  induction h generalizing gap with
  | nil => exact run_objectEnd hgap rest
  | @cons state next final part more hpart _ ih =>
    have hstep := run_objectStep_next schema state hgap part
      ((more.map Part.text).flatMap (',' :: ·) ++ '\x7d' :: rest)
    have hends := endsNumber_parts isBlank_nil more rest
    have hlead := leads_of_enters hstep (by simp; omega) hpart hends (ih part.closing.property)
    simpa using run_loop_of_leads hlead

/-- An object whose parts build a record is read as that record. -/
theorem run_object {parts : List (Part .object)} (h : schema.Builds schema.empty parts final)
    (rest : List Char) :
    schema.object.run (Document.commaSeparated (parts.map Part.text) ++ '\x7d' :: rest) =
      .ok (final, rest) := by
  cases h with
  | nil => exact run_objectEnd isBlank_nil rest
  | @cons state next final part more hpart hmore =>
    have hstep := run_objectStep_first schema schema.empty part
      ((more.map Part.text).flatMap (',' :: ·) ++ '\x7d' :: rest)
    have hloop := run_objectParts hmore part.closing.property rest
    have hends := endsNumber_parts isBlank_nil more rest
    have hlead := leads_of_enters hstep (Nat.le_refl _) hpart hends hloop
    rw [List.map_cons, Document.commaSeparated_cons, List.append_assoc]
    exact run_loop_of_leads hlead

/-- A text that holds one object is read as the record that the object's parts build. -/
theorem parse_object {object : Object} {value : α}
    (h : schema.Builds schema.empty object.parts final) (hbuild : schema.build final = .ok value) :
    schema.parse object.text = .ok value := by
  have hrecord : schema.record.run object.text = .ok (value, object.after.val) := by
    refine (run_bind_of_ok (?_ : _ = Except.ok (final, object.after.val)) _).trans ?_
    · rw [Object.text, run_bind, run_token object.before.property rfl]
      exact (run_bind_of_ok (run_next _ _) _).trans (run_object h _)
    · rw [hbuild]
      rfl
  unfold parse
  rw [run_bind_of_ok hrecord, run_bind_of_ok (run_token_end object.after.property)]
  rfl

/-! ## Objects that have been read -/

/-- Members take values, set themselves and stay set. -/
structure Lawful (schema : Schema σ α) : Prop where
  takesValue : ∀ member ∈ schema.members, member.read.TakesValue
  sets : ∀ member ∈ schema.members, ∀ {text rest : List Char} {store : σ → σ},
    member.read.run text = .ok (store, rest) → ∀ state, member.isSet (store state) = true
  keeps : ∀ member ∈ schema.members, ∀ {text rest : List Char} {store : σ → σ},
    member.read.run text = .ok (store, rest) → ∀ other ∈ schema.members, ∀ state,
      other.isSet state = true → other.isSet (store state) = true

/-- The member of a name has been read. -/
def HasSet (schema : Schema σ α) (state : σ) (name : String) : Prop :=
  ∃ member, (schema.members.find? fun member ↦ member.name == name) = some member ∧
    member.isSet state = true

/-- Some member has the name. -/
def Knows (schema : Schema σ α) (name : String) : Prop :=
  ∃ member ∈ schema.members, member.name = name

/-- What has happened to a record where a member of a name has been read: the name was new, is set
if it is known, and nothing that was set has been lost. -/
structure Stored (schema : Schema σ α) (state : σ) (name : String) (next : σ) : Prop where
  fresh : ¬ schema.HasSet state name
  set : schema.Knows name → schema.HasSet next name
  kept : ∀ {other : String}, schema.HasSet state other → schema.HasSet next other

theorem not_hasSet_of_find?_eq_none {name : String}
    (h : (schema.members.find? fun member ↦ member.name == name) = none) :
    ¬ schema.HasSet state name := by
  rintro ⟨member, hmember, -⟩
  rw [h] at hmember
  cases hmember

theorem stored_unknown {name : String}
    (h : (schema.members.find? fun member ↦ member.name == name) = none) :
    schema.Stored state name state where
  fresh := not_hasSet_of_find?_eq_none h
  set := by
    rintro ⟨member, hmember, hname⟩
    exact absurd (beq_iff_eq.mpr hname) (List.find?_eq_none.mp h member hmember)
  kept h := h

theorem stored_member (hlawful : schema.Lawful) {name : String} {member : Member σ}
    (hfind : (schema.members.find? fun member ↦ member.name == name) = some member)
    (hset : member.isSet state = false) {text rest : List Char} {store : σ → σ}
    (hread : member.read.run text = .ok (store, rest)) :
    schema.Stored state name (store state) where
  fresh := by
    rintro ⟨other, hother, hotherSet⟩
    rw [hfind] at hother
    cases hother
    exact absurd (hset.symm.trans hotherSet) (by decide)
  set _ := ⟨member, hfind, hlawful.sets member (List.mem_of_find?_eq_some hfind) hread state⟩
  kept := by
    rintro other ⟨known, hknown, hknownSet⟩
    have hmember := List.mem_of_find?_eq_some hfind
    have hmem := List.mem_of_find?_eq_some hknown
    exact ⟨known, hknown, hlawful.keeps member hmember hread known hmem state hknownSet⟩

/-- A value that has been read ends where the grammar ends it. -/
theorem stored_of_run_readMember (hlawful : schema.Lawful) {part : Part .object} {name : String}
    (hvalue : IsValue part.value) {text rest : List Char} (htext : EndsNumber text)
    (h : (schema.readMember state name).run (part.assignment ++ text) = .ok (next, rest)) :
    rest = text ∧ schema.Stored state name next := by
  obtain ⟨beforeColon, afterColon, hassignment⟩ := part.exists_assignment
  have hcolon := run_colon beforeColon.property (afterColon.val ++ (part.value ++ text))
  have hskip := run_skipValue afterColon.property hvalue fun _ ↦ htext
  rw [hassignment, readMember, List.append_assoc, List.cons_append, List.append_assoc] at h
  split at h
  · rename_i member hfind
    split at h
    · cases h
    rename_i hset
    rw [Bool.not_eq_true] at hset
    rw [run_bind_of_ok hcolon] at h
    obtain ⟨store, left, hread, hpure⟩ := exists_of_run_bind h
    cases hpure
    have htakes := hlawful.takesValue member (List.mem_of_find?_eq_some hfind)
    have hend := htakes.run_skipValue hread
    rw [hskip] at hend
    cases hend
    exact ⟨rfl, stored_member hlawful hfind hset hread⟩
  · rename_i hfind
    rw [run_bind_of_ok hcolon, run_bind_of_ok hskip] at h
    cases h
    exact ⟨rfl, stored_unknown hfind⟩

theorem stored_of_run_entry (hlawful : schema.Lawful) {part : Part .object}
    (hvalue : IsValue part.value) {text rest : List Char} (htext : EndsNumber text)
    {outcome : (Bool × σ) ⊕ σ}
    (h : (schema.entry state).run (part.key ++ '"' :: (part.assignment ++ text)) =
      .ok (outcome, rest)) :
    rest = text ∧ ∃ name next, outcome = .inl (false, next) ∧ part.Names name ∧
      schema.Stored state name next := by
  obtain ⟨characters, afterKey, hkey, hmember⟩ := exists_of_run_bind h
  obtain ⟨rfl, hspells⟩ := spells_of_run_string part.isBody_key hkey
  obtain ⟨next, afterMember, hmember, hpure⟩ := exists_of_run_bind hmember
  cases hpure
  obtain ⟨hrest, hstored⟩ := stored_of_run_readMember hlawful hvalue htext hmember
  refine ⟨hrest, String.ofList characters, next, rfl, ?_, hstored⟩
  rwa [Part.Names, String.toList_ofList]

/-- Parts none of which repeats a known name, or one that is set already. -/
structure Once (schema : Schema σ α) (state : σ) (parts : List (Part .object)) : Prop where
  fresh : ∀ part ∈ parts, ∀ {name}, part.Names name → ¬ schema.HasSet state name
  distinct : parts.Pairwise fun part other ↦
    ∀ {name}, schema.Knows name → part.Names name → ¬ other.Names name

theorem once_cons {part : Part .object} {parts : List (Part .object)} {name : String}
    (hname : part.Names name) (hstored : schema.Stored state name next)
    (hparts : schema.Once next parts) : schema.Once state (part :: parts) where
  fresh := by
    rw [List.forall_mem_cons]
    constructor
    · intro other hother
      rw [← hname.unique hother]
      exact hstored.fresh
    · intro other hmem known hknown hset
      exact hparts.fresh other hmem hknown (hstored.kept hset)
  distinct := by
    rw [List.pairwise_cons]
    refine ⟨fun other hmem known hknows hknown hother ↦ ?_, hparts.distinct⟩
    obtain rfl := hname.unique hknown
    exact hparts.fresh other hmem hother (hstored.set hknows)

/-- A step that comes to the key of a part, in a loop that ends with a value. -/
theorem stored_of_iterate (hlawful : schema.Lawful) {part : Part .object}
    (hvalue : IsValue part.value) {progress : Bool × σ} {text more rest : List Char}
    (hmore : EndsNumber more)
    (hstep : (schema.objectStep progress).run text =
      (schema.entry state).run (part.key ++ '"' :: (part.assignment ++ (part.closing ++ more))))
    {fuel : Nat} (h : iterate schema.objectStep (fuel + 1) progress text = .ok (final, rest)) :
    ∃ name next, part.Names name ∧ schema.Stored state name next ∧
      iterate schema.objectStep fuel (false, next) (part.closing ++ more) = .ok (final, rest) := by
  have hends := hmore.blank part.closing.property
  rw [iterate] at h
  split at h
  · cases h
  · rename_i value left hrun
    rw [hstep] at hrun
    obtain ⟨-, name, next, houtcome, -⟩ := stored_of_run_entry hlawful hvalue hends hrun
    cases houtcome
  · rename_i progress left hrun
    rw [hstep] at hrun
    obtain ⟨rfl, name, next, houtcome, hname, hstored⟩ :=
      stored_of_run_entry hlawful hvalue hends hrun
    cases houtcome
    exact ⟨name, next, hname, hstored, h⟩

theorem once_of_iterate (hlawful : schema.Lawful) {parts : List (Part .object)}
    (hvalues : ∀ part ∈ parts, IsValue part.value) {fuel : Nat} {gap more rest : List Char}
    (hgap : IsBlank gap)
    (h : iterate schema.objectStep fuel (false, state)
      (gap ++ ((parts.map Part.text).flatMap (',' :: ·) ++ '\x7d' :: more)) = .ok (final, rest)) :
    schema.Once state parts := by
  induction parts generalizing fuel state gap with
  | nil => exact ⟨nofun, .nil⟩
  | cons part parts ih =>
    rw [List.forall_mem_cons] at hvalues
    cases fuel with
    | zero => cases h
    | succ fuel =>
      have hstep := run_objectStep_next schema state hgap part
        ((parts.map Part.text).flatMap (',' :: ·) ++ '\x7d' :: more)
      have hends := endsNumber_parts isBlank_nil parts more
      rw [List.map_cons, List.flatMap_cons, List.append_assoc, List.cons_append] at h
      obtain ⟨name, next, hname, hstored, hmore⟩ :=
        stored_of_iterate hlawful hvalues.1 hends hstep h
      exact once_cons hname hstored (ih hvalues.2 part.closing.property hmore)

/-- An object that has been read repeats no known name. -/
theorem once_of_run_object (hlawful : schema.Lawful) {parts : List (Part .object)}
    (hvalues : ∀ part ∈ parts, IsValue part.value) {more rest : List Char}
    (h : schema.object.run (Document.commaSeparated (parts.map Part.text) ++ '\x7d' :: more) =
      .ok (final, rest)) : schema.Once schema.empty parts := by
  cases parts with
  | nil => exact ⟨nofun, .nil⟩
  | cons part parts =>
    rw [List.forall_mem_cons] at hvalues
    have hstep := run_objectStep_first schema schema.empty part
      ((parts.map Part.text).flatMap (',' :: ·) ++ '\x7d' :: more)
    have hends := endsNumber_parts isBlank_nil parts more
    rw [List.map_cons, Document.commaSeparated_cons, List.append_assoc] at h
    obtain ⟨name, next, hname, hstored, hmore⟩ :=
      stored_of_iterate hlawful hvalues.1 hends hstep h
    exact once_cons hname hstored (once_of_iterate hlawful hvalues.2 part.closing.property hmore)

/-- An object that holds a record repeats no known name. -/
theorem once_of_parse (hlawful : schema.Lawful) {object : Object} {value : α}
    (h : schema.parse object.text = .ok value) : schema.Once schema.empty object.parts := by
  unfold parse at h
  split at h
  · rename_i hrun
    obtain ⟨record, afterRecord, hrecord, -⟩ := exists_of_run_bind hrun
    obtain ⟨state, afterObject, hstate, -⟩ := exists_of_run_bind hrecord
    rw [Object.text, run_bind, run_token object.before.property rfl] at hstate
    obtain ⟨bracket, inner, hbracket, hobject⟩ := exists_of_run_bind hstate
    cases hbracket
    exact once_of_run_object hlawful object.isValue hobject
  · cases h

end Schema

end StubLibc.Json
