/-!
# Standard streams

The three streams of the hosted program.  A stream's handle is the number of its descriptor; it is
compared and never followed.
-/

namespace StubLibc.Console

/-- The standard streams. -/
inductive Stream where
  | stdin
  | stdout
  | stderr
  deriving DecidableEq, Repr

namespace Stream

/-- Every stream, in the order of their descriptors. -/
def all : List Stream := [stdin, stdout, stderr]

/-- The descriptor behind a stream, which is also its handle. -/
def descriptor : Stream → Nat
  | stdin => 0
  | stdout => 1
  | stderr => 2

def isWritable : Stream → Bool
  | stdin => false
  | stdout => true
  | stderr => true

def ofHandle? (handle : Nat) : Option Stream :=
  match handle with
  | 0 => some stdin
  | 1 => some stdout
  | 2 => some stderr
  | _ => none

/-- The writable stream with a handle. -/
def outputOfHandle? (handle : Nat) : Option Stream :=
  (ofHandle? handle).filter isWritable

@[simp]
theorem ofHandle?_descriptor (stream : Stream) : ofHandle? stream.descriptor = some stream := by
  cases stream <;> rfl

end Stream

end StubLibc.Console
