import StubLibc.Numeral
import StubLibc.Session.State

/-!
# Allocation

The four calls of the allocator on named blocks.  A refused request answers NULL with no memory as
its error status, and leaves the block as it was.  Resizing to nothing frees the block and answers
NULL without an error.
-/

namespace StubLibc.Session

/-- A new block for a name; the answer says whether there is one. -/
def allocate (name : String) (size : Nat) (session : Session) : Bool × Session :=
  match session.heap.allocate? name size with
  | some heap => (true, { session with heap := heap })
  | none => (false, session.fail Errno.noMemory)

/-- A new block for `count` items of `size` bytes each. -/
def allocateItems (name : String) (count size : Nat) (session : Session) : Bool × Session :=
  if count * size > Numeral.wordMax then (false, session.fail Errno.noMemory)
  else allocate name (count * size) session

def release (name : String) (session : Session) : Session :=
  { session with heap := session.heap.release name }

/-- Resizes the block of a name. -/
def reallocate (name : String) (size : Nat) (session : Session) : Bool × Session :=
  match session.heap.block? name with
  | none => allocate name size session
  | some block =>
    if size = 0 then (false, session.release name)
    else if session.heap.grants size then
      (true, { session with heap := session.heap.put name (block.resize size) })
    else (false, session.fail Errno.noMemory)

/-- Copies bytes to the start of a name's block; the answer is how many it has room for. -/
def poke (name : String) (bytes : Bytes) (session : Session) : Nat × Session :=
  match session.heap.block? name with
  | none => (0, session)
  | some block =>
    (min bytes.length block.size,
      { session with heap := session.heap.put name (block.poke bytes) })

/-- The first bytes of a name's block. -/
def peek (name : String) (count : Nat) (session : Session) : Bytes :=
  match session.heap.block? name with
  | none => []
  | some block => block.peek count

end StubLibc.Session
