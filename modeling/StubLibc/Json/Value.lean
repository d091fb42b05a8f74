import StubLibc.Json.Skip
import StubLibc.Text.Quoted

/-!
# Reading wanted values

Scanners for the kinds of value that records hold: strings, values that may be null, and names out
of a fixed list, which may also be written as the only key of an object with the value null.  A
value of another kind is refused with a description of what stands there.
-/

namespace StubLibc.Json

variable {α : Type}

/-- The value that a name stands for, out of all there are. -/
def ofName (all : List α) (name : α → String) (found : String) : Except Fault α :=
  match all.find? fun value => name value == found with
  | some value => .ok value
  | none => .error (.unknownVariant found (all.map name))

namespace Scan

/-- Refuses the value at the front, whose first character is next, describing it. -/
def mismatch (expected : String) : Scan α := do
  match ← peek with
  | some 'n' =>
    let _ ← next
    word ['u', 'l', 'l']
    fail (.invalidType "null" expected)
  | some 't' =>
    let _ ← next
    word ['r', 'u', 'e']
    fail (.invalidType "boolean `true`" expected)
  | some 'f' =>
    let _ ← next
    word ['a', 'l', 's', 'e']
    fail (.invalidType "boolean `false`" expected)
  | some '"' =>
    let _ ← next
    let value ← string
    fail (.invalidType ("string " ++ Text.quoted value) expected)
  | some '[' => fail (.invalidType "sequence" expected)
  | some '\x7b' => fail (.invalidType "map" expected)
  | some '-' =>
    let _ ← next
    refuseNumber (← spelling true .eofInValue)
  | some c =>
    if isDigit c then refuseNumber (← spelling false .eofInValue)
    else fail .expectedValue
  | none => fail .expectedValue
where
  /-- Refuses a number that is in range. -/
  refuseNumber (number : Spelling) : Scan α :=
    match number.value with
    | .ok value => fail (.invalidType value.describe expected)
    | .error fault => fail fault

def text : Scan String := do
  match ← token with
  | none => fail .eofInValue
  | some '"' =>
    let _ ← next
    String.ofList <$> string
  | some _ => mismatch "a string"

/-- A value, or null for none. -/
def orNull (value : Scan α) : Scan (Option α) := do
  if (← token) = some 'n' then
    let _ ← next
    word ['u', 'l', 'l']
    pure none
  else some <$> value

def null : Scan Unit := do
  match ← token with
  | none => fail .eofInValue
  | some 'n' =>
    let _ ← next
    word ['u', 'l', 'l']
  | some _ => mismatch "unit"

def colon : Scan Unit := do
  match ← token with
  | none => fail .eofInObject
  | some ':' =>
    let _ ← next
    pure ()
  | some _ => fail .expectedColon

/-- The value with a given name. -/
def named (all : List α) (name : α → String) (found : String) : Scan α :=
  match ofName all name found with
  | .ok value => pure value
  | .error fault => fail fault

/-- The opening quote of the key of an object that has to have one. -/
def onlyKey : Scan Unit := do
  match ← token with
  | none => fail .eofInObject
  | some '"' =>
    let _ ← next
    pure ()
  | some '\x7d' => fail .expectedValue
  | some _ => fail .keyNotString

/-- A value out of a fixed list, by its name. -/
def variant (all : List α) (name : α → String) : Scan α := do
  match ← token with
  | none => fail .eofInValue
  | some '"' =>
    let _ ← next
    named all name (String.ofList (← string))
  | some '\x7b' =>
    let _ ← next
    onlyKey
    let value ← named all name (String.ofList (← string))
    colon
    null
    match ← token with
    | none => fail .eofInObject
    | some '\x7d' =>
      let _ ← next
      pure value
    | some _ => fail .expectedValue
  | some _ => fail .expectedValue

end Scan

end StubLibc.Json
