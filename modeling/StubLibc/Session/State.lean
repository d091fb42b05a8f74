import StubLibc.Console.Descriptor
import StubLibc.Console.Stream
import StubLibc.Heap
import StubLibc.Trap

/-!
# The state of a run

Everything that the library shares between calls: the settings of the environment, the two output
descriptors, the error status, the heap and the trap ledger.  Diagnostics go to the error stream
like any other output, and nobody is told when one of them is lost.
-/

namespace StubLibc

open Console (Descriptor Stream)
open Diagnostic (Record)

/-- How a process ends before its time. -/
inductive Halt where
  | signal (number : Nat)
  | exit (status : Nat)
  deriving DecidableEq, Repr

/-- The end that a trap brings: the abort signal, or the status a shell gives it. -/
def TrapMode.halt : TrapMode → Halt
  | abort => .signal 6
  | exit => .exit 134

/-- The state of a run. -/
structure Session where
  settings : Settings := {}
  stdout : Descriptor := {}
  stderr : Descriptor := {}
  errno : Int32 := 0
  heap : Heap := {}
  ledger : Trap.Ledger := []

namespace Session

/-- Sets the error status. -/
def fail (session : Session) (code : Int32) : Session := { session with errno := code }

/-- Offers bytes to a descriptor; there are two, and any other number is refused. -/
def write (number : Int) (bytes : Bytes) (session : Session) : Int × Session :=
  match number with
  | 1 =>
    let (taken, descriptor) := session.stdout.write bytes
    (taken, { session with stdout := descriptor })
  | 2 =>
    let (taken, descriptor) := session.stderr.write bytes
    (taken, { session with stderr := descriptor })
  | _ => (-1, session)

def writeAll (number : Int) (bytes : Bytes) (session : Session) : Int × Session :=
  let (answer, errno, session) := Console.writeAll (write number) bytes session session.errno
  (answer, { session with errno := errno })

def writeStream (stream : Stream) (bytes : Bytes) (session : Session) : Int × Session :=
  if stream.isWritable then writeAll stream.descriptor bytes session
  else (-1, session.fail Errno.badDescriptor)

/-- Writes a record to the error stream. -/
def diagnose (record : Record) (session : Session) : Session :=
  (writeStream .stderr (record.bytes session.settings.log) session).2

/-- The error stream and the ledger of a run. -/
def site : Trap.Site Session where
  writeLine line session := (writeStream .stderr line session).2
  enter event session := { session with ledger := session.ledger ++ [event] }

/-- Reports a trap; gives the end of the process. -/
def trap (label : String) (session : Session) : Halt × Session :=
  Trap.report site (fun _ => return (← get).settings.trap.halt) session.settings.log label session

end Session

end StubLibc
