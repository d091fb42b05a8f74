import StubLibc.Json.Number
import StubLibc.Json.Text

/-!
# Passing over values

`Scan.skipValue` checks the syntax of one value of any kind and depth and keeps nothing of it.  The
brackets that are open are kept in a list, so the depth of a value costs no recursion.

Nothing is said about the range of numbers or the pairing of surrogates, which only a value that
is wanted is held to.
-/

namespace StubLibc.Json.Scan

/-- An open bracket. -/
inductive Frame where
  | list
  | object
  deriving DecidableEq, Repr

namespace Frame

def closing : Frame → Char
  | list => ']'
  | object => '\x7d'

/-- The fault of a text that ends inside the frame. -/
def atEnd : Frame → Fault
  | list => .eofInList
  | object => .eofInObject

/-- The fault of a character that neither separates nor closes. -/
def unseparated : Frame → Fault
  | list => .expectedListEnd
  | object => .expectedObjectEnd

end Frame

/-- What is due next. -/
inductive Due where
  | value
  /-- The first item of the innermost frame, or its end. -/
  | first
  /-- A comma and another item, or the end of the innermost frame. -/
  | more
  deriving DecidableEq, Repr

/-- The frames that are open, innermost first, and what is due. -/
structure Skipping where
  frames : List Frame
  due : Due

/-- After a value: more of the innermost frame, or the end. -/
def afterValue (frames : List Frame) : Skipping ⊕ Unit :=
  if frames.isEmpty then .inr () else .inl ⟨frames, .more⟩

/-- Passes over a number, after its sign. -/
def skipNumber : Scan Unit := do
  let _ ← spelling false .invalidNumber
  pure ()

/-- Passes over a value without brackets, or opens a bracket. -/
def skipStart (frames : List Frame) : Scan (Skipping ⊕ Unit) := do
  match ← token with
  | none => fail .eofInValue
  | some '[' =>
    let _ ← next
    pure (.inl ⟨.list :: frames, .first⟩)
  | some '\x7b' =>
    let _ ← next
    pure (.inl ⟨.object :: frames, .first⟩)
  | some 'n' =>
    let _ ← next
    word ['u', 'l', 'l']
    pure (afterValue frames)
  | some 't' =>
    let _ ← next
    word ['r', 'u', 'e']
    pure (afterValue frames)
  | some 'f' =>
    let _ ← next
    word ['a', 'l', 's', 'e']
    pure (afterValue frames)
  | some '"' =>
    let _ ← next
    skipString
    pure (afterValue frames)
  | some '-' =>
    let _ ← next
    skipNumber
    pure (afterValue frames)
  | some c =>
    if isDigit c then
      skipNumber
      pure (afterValue frames)
    else fail .expectedValue

/-- Passes over what stands before an item of a frame: for an object, its key and colon. -/
def skipKey : Frame → Scan Unit
  | .list => pure ()
  | .object => do
    match ← token with
    | none => fail .eofInObject
    | some '"' =>
      let _ ← next
      skipString
      match ← token with
      | none => fail .eofInObject
      | some ':' =>
        let _ ← next
        pure ()
      | some _ => fail .expectedColon
    | some _ => fail .keyNotString

/-- One step: a bracket, or an item as far as its first bracket. -/
def skipStep (state : Skipping) : Scan (Skipping ⊕ Unit) := do
  match state.frames, state.due with
  | frame :: outer, .first =>
    match ← token with
    | none => fail frame.atEnd
    | some c =>
      if c = frame.closing then
        let _ ← next
        pure (afterValue outer)
      else
        skipKey frame
        skipStart (frame :: outer)
  | frame :: outer, .more =>
    match ← token with
    | none => fail frame.atEnd
    | some c =>
      if c = frame.closing then
        let _ ← next
        pure (afterValue outer)
      else if c = ',' then
        let _ ← next
        skipKey frame
        skipStart (frame :: outer)
      else fail frame.unseparated
  | frames, _ => skipStart frames

def skipValue : Scan Unit := loop skipStep ⟨[], .value⟩

end StubLibc.Json.Scan
