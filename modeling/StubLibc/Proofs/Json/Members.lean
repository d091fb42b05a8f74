import StubLibc.Json.Schema
import StubLibc.Proofs.Json.Spelling

/-!
# Reading members

What the readers of wanted values take, in any spelling and behind any white space, and with them
the reader of one member of a record.
-/

namespace StubLibc.Json

variable {α σ : Type}

namespace Scan

/-! ## Values -/

theorem reads_text {blank spelling characters : List Char} (hblank : IsBlank blank)
    (h : Spells spelling characters) :
    text.Reads (blank ++ '"' :: (spelling ++ ['"'])) (String.ofList characters) := by
  apply reads_of_token hblank rfl
  exact (reads_next '"').bind_cons ((reads_string h).map String.ofList)

theorem reads_named {all : List α} {name : α → String} {found : String} {value : α}
    (h : ofName all name found = .ok value) : (named all name found).Reads [] value := by
  unfold named
  rw [h]
  exact reads_pure value

theorem reads_variant {all : List α} {name : α → String} {value : α}
    {blank spelling characters : List Char} (hblank : IsBlank blank)
    (h : Spells spelling characters)
    (hname : ofName all name (String.ofList characters) = .ok value) :
    (variant all name).Reads (blank ++ '"' :: (spelling ++ ['"'])) value := by
  apply reads_of_token hblank rfl
  exact (reads_next '"').bind_cons ((reads_string h).bind_nil (reads_named hname))

/-- A value that may be null is read as such unless it starts like null. -/
theorem reads_orNull {scan : Scan α} {blank text : List Char} {c : Char} {value : α}
    (hblank : IsBlank blank) (hspace : isSpace c = false) (hn : c ≠ 'n')
    (h : scan.Reads (c :: text) value) : (orNull scan).Reads (blank ++ c :: text) (some value) := by
  apply reads_of_token hblank hspace
  rw [if_neg (by simpa using hn)]
  exact h.map some

theorem reads_orNull_null {scan : Scan α} {blank : List Char} (hblank : IsBlank blank) :
    (orNull scan).Reads (blank ++ ['n', 'u', 'l', 'l']) none := by
  apply reads_of_token hblank rfl
  rw [if_pos rfl]
  exact fun _ ↦ rfl

theorem reads_colon {blank : List Char} (hblank : IsBlank blank) :
    colon.Reads (blank ++ [':']) () := by
  apply reads_of_token hblank rfl
  exact (reads_next ':').bind_cons (reads_pure ())

theorem run_colon {blank : List Char} (hblank : IsBlank blank) (rest : List Char) :
    colon.run (blank ++ ':' :: rest) = .ok ((), rest) := by
  have hcolon := reads_colon hblank rest
  rwa [List.append_assoc, List.singleton_append] at hcolon

end Scan

open Scan

namespace Schema

variable {schema : Schema σ α}

/-! ## Members -/

/-- A member of the schema that has not come yet is stored. -/
theorem reads_readMember {state : σ} {key : String} {member : Member σ} {store : σ → σ}
    {blank text : List Char} (hblank : IsBlank blank)
    (hfind : (schema.members.find? fun member ↦ member.name == key) = some member)
    (hset : member.isSet state = false) (hread : member.read.Reads text store) :
    (schema.readMember state key).Reads (blank ++ ':' :: text) (store state) := by
  unfold readMember
  rw [hfind]
  dsimp only
  rw [hset]
  rw [← List.singleton_append, ← List.append_assoc]
  exact (reads_colon hblank).bind (hread.bind_nil (reads_pure (store state)))

theorem reads_openKey_next {blank : List Char} (hblank : IsBlank blank) :
    (openKey false ',').Reads (',' :: (blank ++ ['"'])) () := by
  apply (reads_next ',').bind_cons
  exact reads_of_token hblank rfl ((reads_next '"').bind_cons (reads_pure ()))

/-- The end of an object. -/
theorem reads_objectStep_end {isFirst : Bool} {state : σ} {blank : List Char}
    (hblank : IsBlank blank) :
    (schema.objectStep (isFirst, state)).Reads (blank ++ ['\x7d']) (.inr state) := by
  apply reads_of_token hblank rfl
  exact (reads_next '\x7d').bind_cons (reads_pure _)

end Schema

end StubLibc.Json
