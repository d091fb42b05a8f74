import StubLibc.Mkdir
import StubLibc.Session.Allocation
import StubLibc.Session.Formatted
import StubLibc.Session.Output
import StubLibc.Stub

/-!
# Calls

The C surface as data: a `Call` is one call of the hosted program with its arguments, `Call.step`
is what the library does for it, and `Session.run` runs a program, a list of calls, until it ends
or is halted.

A call ends the process when its function is a stub, or when it names a stream that its function
does not have.  `exit` and `system` say what was asked of them before they trap.
-/

namespace StubLibc

open Console (Stream)
open Diagnostic (Record)
open Format

/-- One call.  Handles, sizes and counts are machine words. -/
inductive Call where
  | strcmp (a b : Pointer)
  | strcasecmp (a b : Pointer)
  | strncpy (target : Option Bytes) (source : Pointer) (count : Nat)
  | strrchr (text : Pointer) (c : Int32)
  | printf (format : Pointer) (args : VaList)
  | vfprintf (handle : Nat) (format : Pointer) (args : VaList)
  | vsnprintf (buffer : Option Bytes) (size : Nat) (format : Pointer) (args : VaList)
  /-- Rendering with arguments that are typed already. -/
  | renderCollected (format : Bytes) (args : List Arg)
  | fwrite (memory : Pointer) (size count : Nat) (handle : Nat)
  | fflush (handle : Nat)
  | putchar (c : Int32)
  | puts (text : Pointer)
  | writeStream (stream : Stream) (bytes : Bytes)
  | writeAll (descriptor : Int) (bytes : Bytes)
  | mkdir (path : Pointer) (mode : Nat)
  /-- A store through the address of the error status. -/
  | setErrno (value : Int32)
  /-- The three stream handles. -/
  | streams
  | malloc (block : String) (size : Nat)
  | calloc (block : String) (count size : Nat)
  | realloc (block : String) (size : Nat)
  | free (block : String)
  | poke (block : String) (bytes : Bytes)
  | peek (block : String) (count : Nat)
  | exit (status : Int32)
  | system (command : Pointer)
  | unimplemented (label : Pointer)
  /-- A stub, whatever it is given: it never looks at its arguments. -/
  | stub (function : Stub) (isExported : function ∈ Stub.all)

/-- What a call answers. -/
inductive Reply where
  | number (value : Int)
  /-- A pointer, as an offset into the argument it points into, or NULL. -/
  | offset (value : Option Nat)
  /-- A pointer into a buffer, and the buffer afterwards. -/
  | copied (value : Option Nat) (buffer : Option Bytes)
  /-- A number, and a buffer afterwards. -/
  | printed (value : Int) (buffer : Option Bytes)
  | rendered (result : Except FormatError Bytes)
  /-- A block, or NULL. -/
  | block (granted : Bool)
  | bytes (value : Bytes)
  | handles (value : List Nat)
  | nothing

/-- What becomes of a call. -/
inductive Outcome where
  | returned (reply : Reply) (session : Session)
  | halted (halt : Halt) (session : Session)

namespace Outcome

/-- The state afterwards. -/
def session : Outcome → Session
  | returned _ session => session
  | halted _ session => session

def ofTrap (label : String) (session : Session) : Outcome :=
  let (halt, session) := session.trap label
  .halted halt session

def ofNumber : Int × Session → Outcome
  | (value, session) => .returned (.number value) session

def ofBlock : Bool × Session → Outcome
  | (granted, session) => .returned (.block granted) session

end Outcome

namespace Call

/-- What the library does for a call. -/
def step (call : Call) (session : Session) : Outcome :=
  match call with
  | .strcmp a b => .returned (.number (CString.compare (CString.bytes a) (CString.bytes b))) session
  | .strcasecmp a b =>
    .returned (.number (CString.compareIgnoreCase (CString.bytes a) (CString.bytes b))) session
  | .strncpy target source count =>
    .returned (.copied (target.map fun _ => 0) (CString.copyString target source count)) session
  | .strrchr text c =>
    .returned
      (.offset ((CString.bytes? text).bind fun bytes =>
        CString.lastIndexOf bytes c.toUInt32.toUInt8))
      session
  | .printf format args => .ofNumber (session.printTo .stdout format args)
  | .vfprintf handle format args =>
    match Stream.outputOfHandle? handle with
    | some stream => .ofNumber (session.printTo stream format args)
    | none => .ofTrap Capability.vfprintf.symbol session
  | .vsnprintf buffer size format args =>
    let (answer, buffer, session) := session.printInto buffer size format args
    .returned (.printed answer buffer) session
  | .renderCollected format args =>
    let (result, session) := session.renderCollected (Segment.ofFormat format) args
    .returned (.rendered result) session
  | .fwrite memory size count handle =>
    match Stream.outputOfHandle? handle with
    | some stream =>
      let (items, session) := session.writeItems stream memory size count
      .returned (.number items) session
    | none => .ofTrap Capability.fwrite.symbol session
  | .fflush handle =>
    match Stream.ofHandle? handle with
    | some _ => .returned (.number 0) session
    | none => .ofTrap Capability.fflush.symbol session
  | .putchar c => .ofNumber (session.putChar c)
  | .puts text => .ofNumber (session.putLine text)
  | .writeStream stream bytes => .ofNumber (session.writeStream stream bytes)
  | .writeAll descriptor bytes => .ofNumber (session.writeAll descriptor bytes)
  | .mkdir path _ =>
    let plan := Mkdir.plan (CString.bytes? path) session.settings.mkdir
    let session := plan.notice.elim session session.diagnose
    .returned (.number plan.status) session
  | .setErrno value => .returned (.number value.toInt) (session.fail value)
  | .streams => .returned (.handles (Stream.all.map Stream.descriptor)) session
  | .malloc block size => .ofBlock (session.allocate block size)
  | .calloc block count size => .ofBlock (session.allocateItems block count size)
  | .realloc block size => .ofBlock (session.reallocate block size)
  | .free block => .returned .nothing (session.release block)
  | .poke block bytes =>
    let (count, session) := session.poke block bytes
    .returned (.number count) session
  | .peek block count => .returned (.bytes (session.peek block count)) session
  | .exit status =>
    let record := Record.request .exit .exitRequested (Numeral.ofInt status.toInt)
    .ofTrap Capability.exit.symbol (session.diagnose record)
  | .system command =>
    let record := Record.request .system .commandRequested (CString.display command)
    .ofTrap Capability.system.symbol (session.diagnose record)
  | .unimplemented label => .ofTrap (CString.display label) session
  | .stub function _ => .ofTrap function.traps.symbol session

end Call

namespace Session

/-- How a program ended. -/
inductive End where
  | done
  | halted (halt : Halt)
  deriving DecidableEq, Repr

/-- What one call of a program did: its answer, absent when it did not return, and the states
before and after it. -/
structure Step where
  reply : Option Reply
  before : Session
  after : Session

namespace Step

/-- What the call wrote to standard output. -/
def stdout (step : Step) : Bytes :=
  step.after.stdout.content.drop step.before.stdout.content.length

/-- What the call wrote to the error stream. -/
def stderr (step : Step) : Bytes :=
  step.after.stderr.content.drop step.before.stderr.content.length

end Step

/-- Runs a program: what its calls did, as far as they were reached, and how it ended. -/
def run : List Call → Session → List Step × End
  | [], _ => ([], .done)
  | call :: rest, session =>
    match call.step session with
    | .returned reply after =>
      let (steps, ending) := run rest after
      (⟨some reply, session, after⟩ :: steps, ending)
    | .halted halt after => ([⟨none, session, after⟩], .halted halt)

end Session

end StubLibc
