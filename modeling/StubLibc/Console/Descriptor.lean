import StubLibc.Bytes
import StubLibc.Errno

/-!
# Descriptors

A descriptor holds what it has accepted and how much more it will accept.  A write takes what fits
and is refused when nothing does; `deliver` repeats writes on any device until everything has been
taken or a write is refused.

The device is a parameter of `deliver`, so that what it says about lost and repeated bytes is said
for every device that answers with the number of bytes it took.
-/

namespace StubLibc.Console

/-- An output descriptor. -/
structure Descriptor where
  /-- The bytes accepted so far. -/
  content : Bytes := []
  /-- How many more bytes are accepted; `none` for any number. -/
  room : Option Nat := none
  deriving DecidableEq, Repr

namespace Descriptor

/-- A descriptor that refuses every write. -/
def closed : Descriptor := { room := some 0 }

/-- Offers bytes: the number taken and the descriptor after it, or `-1` for a refusal. -/
def write (bytes : Bytes) (descriptor : Descriptor) : Int × Descriptor :=
  match descriptor.room with
  | none => (bytes.length, { descriptor with content := descriptor.content ++ bytes })
  | some room =>
    let taken := min room bytes.length
    if taken = 0 then (-1, descriptor)
    else (taken, ⟨descriptor.content ++ bytes.take taken, some (room - taken)⟩)

end Descriptor

/-- Writes until all bytes are taken or a write takes none; gives the number taken in all. -/
def deliver {σ : Type} (write : Bytes → σ → Int × σ) (bytes : Bytes) (device : σ) : Nat × σ :=
  if _hempty : bytes = [] then (0, device)
  else
    let (taken, device) := write bytes device
    if _hrefused : taken ≤ 0 then (0, device)
    else
      let (more, device) := deliver write (bytes.drop taken.toNat) device
      (taken.toNat + more, device)
termination_by bytes.length
decreasing_by
  have := List.length_pos_iff.mpr _hempty
  rw [List.length_drop]
  omega

/-- Writes all bytes to a device.  The answer is the number taken, or `-1` when there were bytes and
none was taken; only then is the error status changed, to an output error. -/
def writeAll {σ : Type} (write : Bytes → σ → Int × σ) (bytes : Bytes) (device : σ)
    (errno : Int32) : Int × Int32 × σ :=
  let (taken, device) := deliver write bytes device
  if taken = 0 ∧ bytes ≠ [] then (-1, Errno.io, device) else (taken, errno, device)

end StubLibc.Console
