import StubLibc.Json.Value

/-!
# Reading records

A `Schema` says which members a record has and how each is read.  A record is written either as an
object, with its members in any order and members of other names among them, or as a list of its
members' values in the order of the schema.

In an object no member may come twice, and a required one has to come.  A list may end early where
only optional members are left.  Faults are reported in reading order; what is missing is known
only at the end of an object, so it is reported last.
-/

namespace StubLibc.Json

/-- One member of a record under construction. -/
structure Member (σ : Type) where
  name : String
  required : Bool
  /-- The member has been read. -/
  isSet : σ → Bool
  /-- Reads the value and stores it. -/
  read : Scan (σ → σ)

/-- The shape of a record of type `α`, built up in a state of type `σ`. -/
structure Schema (σ α : Type) where
  /-- What messages call the record. -/
  title : String
  members : List (Member σ)
  empty : σ
  build : σ → Except Fault α

namespace Schema

open Scan

variable {σ α : Type} (schema : Schema σ α)

/-- Takes the opening quote of the next key, and the comma before it unless it is the first. -/
def openKey (isFirst : Bool) (c : Char) : Scan Unit := do
  if isFirst then
    if c = '"' then
      let _ ← next
      pure ()
    else fail .keyNotString
  else if c = ',' then
    let _ ← next
    match ← token with
    | some '"' =>
      let _ ← next
      pure ()
    | some '\x7d' => fail .trailingComma
    | some _ => fail .keyNotString
    | none => fail .eofInValue
  else fail .expectedObjectEnd

/-- Reads the value of a key into the record; the value of a key that is none of the members' is
passed over. -/
def readMember (state : σ) (key : String) : Scan σ := do
  match schema.members.find? fun member => member.name == key with
  | some member =>
    if member.isSet state then fail (.duplicateField key)
    else
      colon
      let store ← member.read
      pure (store state)
  | none =>
    colon
    skipValue
    pure state

/-- One member of an object, or its end. -/
def objectStep (progress : Bool × σ) : Scan ((Bool × σ) ⊕ σ) := do
  let (isFirst, state) := progress
  match ← token with
  | none => fail .eofInObject
  | some '\x7d' =>
    let _ ← next
    pure (.inr state)
  | some c =>
    openKey isFirst c
    let key ← string
    let state ← schema.readMember state (String.ofList key)
    pure (.inl (false, state))

/-- The members of an object, after its opening bracket. -/
def object : Scan σ := loop schema.objectStep (true, schema.empty)

/-- Whether a list goes on; the comma before the next item is taken. -/
def listGoesOn (isFirst : Bool) : Scan Bool := do
  match ← token with
  | none => fail .eofInList
  | some ']' => pure false
  | some c =>
    if isFirst then pure true
    else if c = ',' then
      let _ ← next
      match ← token with
      | some ']' => fail .trailingComma
      | some _ => pure true
      | none => fail .eofInValue
    else fail .expectedListEnd

/-- The end of a list that holds every member. -/
def listEnd : Scan Unit := do
  match ← token with
  | none => fail .eofInList
  | some ']' =>
    let _ ← next
    pure ()
  | some ',' =>
    let _ ← next
    if (← token) = some ']' then fail .trailingComma else fail .trailingCharacters
  | some _ => fail .trailingCharacters

/-- What messages say a list has to hold. -/
def listTitle : String :=
  schema.title ++ " with " ++ Numeral.ofNat schema.members.length ++ " elements"

/-- The values of members, the first of them with number `index`. -/
def listItems (index : Nat) (state : σ) : List (Member σ) → Scan σ
  | [] => do
    listEnd
    pure state
  | member :: more => do
    if ← listGoesOn (index == 0) then
      let store ← member.read
      listItems (index + 1) (store state) more
    else if member.required then fail (.invalidLength index schema.listTitle)
    else listItems index state more

/-- A record, as an object or as a list. -/
def record : Scan α := do
  let state ← (do
    match ← token with
    | none => fail .eofInValue
    | some '\x7b' =>
      let _ ← next
      schema.object
    | some '[' =>
      let _ ← next
      schema.listItems 0 schema.empty schema.members
    | some _ => mismatch schema.title)
  match schema.build state with
  | .ok value => pure value
  | .error fault => fail fault

def parse (text : List Char) : Except Fault α :=
  match (do
    let value ← schema.record
    match ← token with
    | none => pure value
    | some _ => fail .trailingCharacters : Scan α).run text with
  | .ok (value, _) => .ok value
  | .error fault => .error fault

end Schema

end StubLibc.Json
