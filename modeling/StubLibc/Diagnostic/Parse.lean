import StubLibc.Diagnostic
import StubLibc.Json.Schema

/-!
# Reading diagnostic records

The schema of a record in JSON form and the reader that it gives.  Level and event have to be
there; a field that is missing and one that is null are the same.
-/

namespace StubLibc.Diagnostic

/-- A record under construction.  Of a field that may be null, the outer layer says whether it has
been read. -/
structure Draft where
  level : Option Level := none
  event : Option Event := none
  symbol : Option (Option String) := none
  family : Option (Option Family) := none
  detail : Option (Option String) := none

open Json (Fault Member Scan Schema)

/-- The record that a complete draft holds. -/
def Draft.build (draft : Draft) : Except Fault Record :=
  match draft.level, draft.event with
  | some level, some event =>
    .ok ⟨level, event, draft.symbol.join, draft.family.join, draft.detail.join⟩
  | none, _ => .error (.missingField "level")
  | some _, none => .error (.missingField "event")

def members : List (Member Draft) :=
  [{ name := "level"
     required := true
     isSet := fun draft => draft.level.isSome
     read := do
      let level ← Scan.variant Level.all Level.name
      pure fun draft => { draft with level := some level } },
   { name := "event"
     required := true
     isSet := fun draft => draft.event.isSome
     read := do
      let event ← Scan.variant Event.all Event.name
      pure fun draft => { draft with event := some event } },
   { name := "symbol"
     required := false
     isSet := fun draft => draft.symbol.isSome
     read := do
      let symbol ← Scan.orNull Scan.text
      pure fun draft => { draft with symbol := some symbol } },
   { name := "api_family"
     required := false
     isSet := fun draft => draft.family.isSome
     read := do
      let family ← Scan.orNull (Scan.variant Family.all Family.name)
      pure fun draft => { draft with family := some family } },
   { name := "detail"
     required := false
     isSet := fun draft => draft.detail.isSome
     read := do
      let detail ← Scan.orNull Scan.text
      pure fun draft => { draft with detail := some detail } }]

def schema : Schema Draft Record where
  title := "struct DiagnosticRecord"
  members := members
  empty := {}
  build := Draft.build

def Record.parse (text : List Char) : Except Fault Record := schema.parse text

end StubLibc.Diagnostic
