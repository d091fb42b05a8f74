import StubLibc.CString
import StubLibc.Session.State

/-!
# Unformatted output

Blocks, characters and lines.  A block is answered by the number of whole items that were taken, a
character or a line by whether all of it was.
-/

namespace StubLibc.Session

open Console (Stream)

/-- The answer of a call that failed to write a character or a line. -/
def eof : Int := -1

/-! ## Items -/

/-- How many whole items some bytes are; items of no bytes cannot be counted. -/
def wholeItems? (taken size : Nat) : Option Nat :=
  if size = 0 then none else some (taken / size)

/-- Writes `count` items of `size` bytes each, unless a division by zero is come upon. -/
def writeItems? (stream : Stream) (memory : Pointer) (size count : Nat) (session : Session) :
    Option (Nat × Session) :=
  let total := size * count
  if total > Numeral.wordMax then some (0, session.fail Errno.invalid)
  else if total = 0 then some (0, session)
  else
    match memory with
    | none => some (0, session.fail Errno.invalid)
    | some memory =>
      let (taken, session) := writeStream stream (memory.take total) session
      if taken < 0 then some (0, session) else (wholeItems? taken.toNat size).map (·, session)

/-- No division by zero is come upon: items of no bytes are not written. -/
theorem isSome_writeItems? (stream : Stream) (memory : Pointer) (size count : Nat)
    (session : Session) : (session.writeItems? stream memory size count).isSome = true := by
  unfold writeItems?
  dsimp only
  split
  · rfl
  split
  · rfl
  · rename_i hempty
    have hsize : size ≠ 0 := fun hzero ↦ hempty (by rw [hzero, Nat.zero_mul])
    cases memory with
    | none => rfl
    | some block =>
      dsimp only
      rw [wholeItems?, if_neg hsize]
      split <;> rfl

def writeItems (stream : Stream) (memory : Pointer) (size count : Nat) (session : Session) :
    Nat × Session :=
  (session.writeItems? stream memory size count).get (isSome_writeItems? ..)

variable {stream : Stream} {memory : Pointer} {size count : Nat} {session : Session}

theorem writeItems?_eq_some (stream : Stream) (memory : Pointer) (size count : Nat)
    (session : Session) :
    session.writeItems? stream memory size count =
      some (session.writeItems stream memory size count) :=
  (Option.some_get _).symm

theorem writeItems_eq {written : Nat × Session}
    (h : session.writeItems? stream memory size count = some written) :
    session.writeItems stream memory size count = written :=
  Option.some.inj ((writeItems?_eq_some ..).symm.trans h)

theorem writeItems_of_wordMax_lt (h : Numeral.wordMax < size * count) (stream : Stream)
    (memory : Pointer) (session : Session) :
    session.writeItems stream memory size count = (0, session.fail Errno.invalid) :=
  writeItems_eq (if_pos h)

theorem writeItems_of_empty (h : size * count = 0) (stream : Stream) (memory : Pointer)
    (session : Session) : session.writeItems stream memory size count = (0, session) := by
  apply writeItems_eq
  unfold writeItems?
  dsimp only
  rw [h]
  rfl

theorem writeItems_null (hwide : ¬ Numeral.wordMax < size * count) (hempty : size * count ≠ 0)
    (stream : Stream) (session : Session) :
    session.writeItems stream none size count = (0, session.fail Errno.invalid) := by
  apply writeItems_eq
  unfold writeItems?
  dsimp only
  rw [if_neg hwide, if_neg hempty]

theorem writeItems_block (hwide : ¬ Numeral.wordMax < size * count) (hempty : size * count ≠ 0)
    (stream : Stream) (block : Bytes) (session : Session) :
    session.writeItems stream (some block) size count =
      let (taken, after) := session.writeStream stream (block.take (size * count))
      (if taken < 0 then 0 else taken.toNat / size, after) := by
  have hsize : size ≠ 0 := fun hzero ↦ hempty (by rw [hzero, Nat.zero_mul])
  apply writeItems_eq
  unfold writeItems?
  dsimp only
  rw [if_neg hwide, if_neg hempty, wholeItems?, if_neg hsize]
  split <;> rfl

/-! ## Characters and lines -/

/-- Writes the low byte of a character to standard output. -/
def putChar (c : Int32) (session : Session) : Int × Session :=
  let byte := c.toUInt32.toUInt8
  let (taken, session) := writeStream .stdout [byte] session
  (if taken = 1 then byte.toNat else eof, session)

/-- Writes a string and a line feed to standard output. -/
def putLine (text : Pointer) (session : Session) : Int × Session :=
  match CString.bytes? text with
  | none => (eof, session.fail Errno.invalid)
  | some bytes =>
    let line := bytes ++ [0x0A]
    let (taken, session) := writeStream .stdout line session
    (if taken = line.length then 0 else eof, session)

end StubLibc.Session
