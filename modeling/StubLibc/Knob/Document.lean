import StubLibc.Json.Document
import StubLibc.Json.Schema
import StubLibc.Knob

/-!
# Settings as a document

The settings of a run written as a JSON object, one member for each knob, and read back from one.
-/

namespace StubLibc.Settings

/-- Settings under construction. -/
structure Draft where
  trap : Option TrapMode := none
  mkdir : Option MkdirPolicy := none
  log : Option LogFormat := none

open Json (Document Fault Member Scan Schema)

/-- The settings that a complete draft holds. -/
def Draft.build (draft : Draft) : Except Fault Settings :=
  match draft.trap, draft.mkdir, draft.log with
  | some trap, some mkdir, some log => .ok ⟨trap, mkdir, log⟩
  | none, _, _ => .error (.missingField "trap")
  | some _, none, _ => .error (.missingField "mkdir")
  | some _, some _, none => .error (.missingField "log")

def members : List (Member Draft) :=
  [{ name := "trap"
     required := true
     isSet := fun draft => draft.trap.isSome
     read := do
      let trap ← Scan.variant TrapMode.all TrapMode.name
      pure fun draft => { draft with trap := some trap } },
   { name := "mkdir"
     required := true
     isSet := fun draft => draft.mkdir.isSome
     read := do
      let mkdir ← Scan.variant MkdirPolicy.all MkdirPolicy.name
      pure fun draft => { draft with mkdir := some mkdir } },
   { name := "log"
     required := true
     isSet := fun draft => draft.log.isSome
     read := do
      let log ← Scan.variant LogFormat.all LogFormat.name
      pure fun draft => { draft with log := some log } }]

def schema : Schema Draft Settings where
  title := "struct ShimConfig"
  members := members
  empty := {}
  build := Draft.build

def parse (text : List Char) : Except Fault Settings := schema.parse text

def document (settings : Settings) : Document :=
  .object
    [("trap", .text settings.trap.name), ("mkdir", .text settings.mkdir.name),
      ("log", .text settings.log.name)]

end StubLibc.Settings
