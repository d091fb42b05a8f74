import StubLibc.Bytes
import StubLibc.Text.Utf8

/-!
# C strings

A pointer argument is `none` for NULL, or the bytes that may be read from it on.  A C string ends
before the first NUL in them; a bounded scan also ends after its bound, so it reads nothing past
either.  The comparisons, copies and searches below work on strings without their terminators.

A scan keeps the loads that it makes, and a copy is the list of its loads and stores, so that what
they touch can be told from what they are.
-/

namespace StubLibc

/-- NULL, or the readable bytes from an address on. -/
abbrev Pointer := Option Bytes

namespace CString

/-! ## Reading -/

/-- A scan of a string. -/
structure Scan where
  /-- The offsets of the bytes that are loaded. -/
  loads : List Nat
  length : Nat
  /-- A NUL was seen. -/
  terminated : Bool
  deriving DecidableEq, Repr

/-- Scans on from an offset, with `rest` behind it.  A byte that is not readable cannot be loaded,
so a scan that needs one does not end. -/
def scanFrom? (bound : Option Nat) (offset : Nat) (rest : Bytes) : Option Scan :=
  if bound = some offset then some ⟨[], offset, false⟩
  else
    match rest with
    | [] => none
    | byte :: rest =>
      if byte = 0 then some ⟨[offset], offset, true⟩
      else
        (scanFrom? bound (offset + 1) rest).map fun scan =>
          { scan with loads := offset :: scan.loads }

def scan? (memory : Bytes) (bound : Option Nat) : Option Scan := scanFrom? bound 0 memory

/-- The length of the string in `memory`, cut at the bound, and whether a terminator was seen. -/
def scan (memory : Bytes) (bound : Option Nat) : Nat × Bool :=
  match scan? memory bound with
  | some scan => (scan.length, scan.terminated)
  | none => (memory.length, false)

/-- The bytes of a string read no further than a bound; `none` for NULL. -/
def bounded? (pointer : Pointer) (bound : Option Nat) : Option Bytes :=
  pointer.map fun memory => memory.take (scan memory bound).1

/-- The bytes of a string; `none` for NULL. -/
def bytes? (pointer : Pointer) : Option Bytes := bounded? pointer none

/-- The bytes of a string; NULL counts as empty. -/
def bytes (pointer : Pointer) : Bytes := (bytes? pointer).getD []

/-- A string for display: ill-formed UTF-8 is replaced, NULL has a name. -/
def display (pointer : Pointer) : String :=
  match bytes? pointer with
  | some text => Utf8.decodeLossy text
  | none => "(null)"

/-- A pointer to a terminated string. -/
def pointerTo (text : Bytes) : Pointer := some (text ++ [0])

/-! ## Comparing -/

/-- The order of two strings by unsigned bytes, as `-1`, `0` or `1`. -/
def compare : Bytes → Bytes → Int
  | [], [] => 0
  | [], _ :: _ => -1
  | _ :: _, [] => 1
  | x :: xs, y :: ys => if x < y then -1 else if y < x then 1 else compare xs ys

/-- The order of two strings after folding ASCII letters to lower case. -/
def compareIgnoreCase (xs ys : Bytes) : Int :=
  compare (xs.map Bytes.lowerAscii) (ys.map Bytes.lowerAscii)

/-! ## Copying -/

/-- A load from the source of a copy, or a store to its target. -/
inductive Access where
  | load (offset : Nat)
  | store (offset : Nat) (byte : UInt8)
  deriving DecidableEq, Repr

def Access.perform (target : Bytes) : Access → Bytes
  | load _ => target
  | store offset byte => target.set offset byte

/-- The pass over `count` bytes of the target from an offset on: as much of the source as there is,
and NUL after that. -/
def fillFrom (offset : Nat) : Bytes → Nat → List Access
  | _, 0 => []
  | [], count + 1 => .store offset 0 :: fillFrom (offset + 1) [] count
  | byte :: source, count + 1 =>
    .load offset :: .store offset byte :: fillFrom (offset + 1) source count

/-- A copy into a buffer: how long the source is or how much of it was taken, and the buffer
afterwards. -/
structure Copy where
  count : Nat
  buffer : Bytes
  deriving DecidableEq, Repr

/-- Copies as much of the source as fits and fills the rest of the buffer with NUL. -/
def copyPadded (buffer source : Bytes) : Copy where
  count := min buffer.length source.length
  buffer := (fillFrom 0 source buffer.length).foldl Access.perform buffer

/-- The accesses of a copy into the first `count` bytes of a target, unless the scan of the source
does not end.  Nothing is done for a null target or no bytes; a null source is an empty string. -/
def copyAccesses? (target : Option Bytes) (source : Pointer) (count : Nat) :
    Option (List Access) :=
  if target.isNone ∨ count = 0 then some []
  else
    match source with
    | none => some (fillFrom 0 [] count)
    | some memory =>
      (scan? memory (some count)).map fun scan =>
        scan.loads.map .load ++ fillFrom 0 (memory.take scan.length) count

/-- The target after such a copy. -/
def copyString (target : Option Bytes) (source : Pointer) (count : Nat) : Option Bytes :=
  target.map fun memory => ((copyAccesses? target source count).getD []).foldl Access.perform memory

/-- Copies as much of the source as leaves room for a NUL, and the NUL.  An empty buffer stays
empty.  The count is the source's whole length. -/
def copyTruncated (buffer source : Bytes) : Copy where
  count := source.length
  buffer :=
    match buffer.length with
    | 0 => []
    | room + 1 => source.take room ++ 0 :: buffer.drop (min room source.length + 1)

/-! ## Searching -/

/-- The position of the last occurrence of a byte.  The terminator counts as the last byte. -/
def lastIndexOf (text : Bytes) (byte : UInt8) : Option Nat :=
  if byte = 0 then some text.length
  else (text.reverse.idxOf? byte).map (text.length - 1 - ·)

end CString

end StubLibc
