import StubLibc.Bytes

/-!
# The heap

Blocks of memory under names that the hosted program's variables stand for.  Whether a request is
granted is the host's decision and depends here on its size alone; a request that is not granted
leaves every block as it was.
-/

namespace StubLibc

/-- A block of memory.  A byte that was never set reads as zero. -/
structure Block where
  size : Nat
  content : Nat → UInt8

namespace Block

def zeroed (size : Nat) : Block := ⟨size, fun _ => 0⟩

/-- Copies bytes to the start of the block, cut to its size. -/
def poke (block : Block) (bytes : Bytes) : Block :=
  let stored := bytes.take block.size
  { block with content := fun i => (stored[i]?).getD (block.content i) }

/-- The first bytes of the block. -/
def peek (block : Block) (count : Nat) : Bytes :=
  (List.range (min count block.size)).map block.content

/-- The block with another size and the bytes that both sizes have. -/
def resize (block : Block) (size : Nat) : Block :=
  ⟨size, fun i => if i < block.size then block.content i else 0⟩

@[simp]
theorem size_poke (block : Block) (bytes : Bytes) : (block.poke bytes).size = block.size := rfl

@[simp]
theorem size_resize (block : Block) (size : Nat) : (block.resize size).size = size := rfl

@[simp]
theorem length_peek (block : Block) (count : Nat) :
    (block.peek count).length = min count block.size := by
  simp [peek]

/-- What was stored is read back, as far as it fitted. -/
theorem peek_poke (block : Block) (bytes : Bytes) :
    (block.poke bytes).peek bytes.length = bytes.take block.size := by
  refine List.ext_getElem (by simp; omega) fun i _ h => ?_
  have hi : i < min bytes.length block.size := by
    rw [Nat.min_comm]
    simpa using h
  simp [peek, poke, List.getElem?_take, show i < block.size by omega,
    show i < bytes.length by omega]

end Block

/-- The blocks in use and the host's decision on requests. -/
structure Heap where
  /-- The block of a name, if it has one. -/
  block? : String → Option Block := fun _ => none
  /-- The host grants a request of this size; by default, any that a signed word holds. -/
  grants : Nat → Bool := fun size => size < 0x8000000000000000

namespace Heap

def put (heap : Heap) (name : String) (block : Block) : Heap :=
  { heap with block? := fun other => if other = name then some block else heap.block? other }

def release (heap : Heap) (name : String) : Heap :=
  { heap with block? := fun other => if other = name then none else heap.block? other }

/-- A new block for a name, if the host grants it. -/
def allocate? (heap : Heap) (name : String) (size : Nat) : Option Heap :=
  if heap.grants size then some (heap.put name (Block.zeroed size)) else none

@[simp]
theorem block?_put (heap : Heap) (name other : String) (block : Block) :
    (heap.put name block).block? other = if other = name then some block else heap.block? other :=
  rfl

@[simp]
theorem block?_release (heap : Heap) (name other : String) :
    (heap.release name).block? other = if other = name then none else heap.block? other :=
  rfl

end Heap

end StubLibc
