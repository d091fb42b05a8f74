import StubLibc.Proofs.Console.Delivery
import StubLibc.Session.State

/-!
# Writing to the streams of a session

A write to a writable stream has one of two outcomes: the stream's descriptor takes as much as it
has room for, and nothing else in the session changes, or there is no room at all and only the
error status changes.
-/

namespace StubLibc

open Console (Descriptor Stream)
open Diagnostic (Record)

namespace Session

variable {stream : Stream}

/-- The descriptor behind a stream; input is never accepted there. -/
def output (stream : Stream) (session : Session) : Descriptor :=
  match stream with
  | .stdin => .closed
  | .stdout => session.stdout
  | .stderr => session.stderr

/-- The session with another descriptor behind an output stream. -/
def withOutput (stream : Stream) (descriptor : Descriptor) (session : Session) : Session :=
  match stream with
  | .stdin => session
  | .stdout => { session with stdout := descriptor }
  | .stderr => { session with stderr := descriptor }

/-- The session after its descriptor behind a stream accepted what it has room for. -/
def accept (stream : Stream) (bytes : Bytes) (session : Session) : Session :=
  session.withOutput stream ((session.output stream).accept bytes)

@[simp]
theorem withOutput_output (stream : Stream) (session : Session) :
    session.withOutput stream (session.output stream) = session := by
  cases stream <;> rfl

theorem output_withOutput (hstream : stream.isWritable = true) (descriptor : Descriptor)
    (session : Session) : (session.withOutput stream descriptor).output stream = descriptor := by
  cases stream with
  | stdin => cases hstream
  | stdout => rfl
  | stderr => rfl

theorem output_accept (hstream : stream.isWritable = true) (bytes : Bytes) (session : Session) :
    (session.accept stream bytes).output stream = (session.output stream).accept bytes :=
  output_withOutput hstream _ session

theorem accept_of_fits_eq_zero {bytes : Bytes} {session : Session}
    (h : (session.output stream).fits bytes = 0) : session.accept stream bytes = session := by
  rw [accept, Descriptor.accept_of_fits_eq_zero h, withOutput_output]

/-! ## Writes -/

/-- Writing to a session is writing to one of its descriptors. -/
theorem write_withOutput (hstream : stream.isWritable = true) (bytes : Bytes)
    (descriptor : Descriptor) (session : Session) :
    write stream.descriptor bytes (session.withOutput stream descriptor) =
      (descriptor.write bytes).map id fun after ↦ session.withOutput stream after := by
  cases stream with
  | stdin => cases hstream
  | stdout => rfl
  | stderr => rfl

theorem deliver_stream (hstream : stream.isWritable = true) (bytes : Bytes) (session : Session) :
    Console.deliver (write stream.descriptor) bytes session =
      ((session.output stream).fits bytes, session.accept stream bytes) := by
  let embed := fun descriptor ↦ session.withOutput stream descriptor
  have hwrite := fun bytes descriptor ↦ write_withOutput hstream bytes descriptor session
  calc
    Console.deliver (write stream.descriptor) bytes session =
        Console.deliver (write stream.descriptor) bytes (embed (session.output stream)) :=
      congrArg _ (withOutput_output stream session).symm
    _ = (Console.deliver Descriptor.write bytes (session.output stream)).map id embed :=
      Console.deliver_map hwrite bytes (session.output stream)
    _ = ((session.output stream).fits bytes, session.accept stream bytes) := by
      rw [Descriptor.deliver_write]
      rfl

/-- A write that is refused leaves an output error behind, and nothing else. -/
theorem writeStream_of_refuses (hstream : stream.isWritable = true) {bytes : Bytes}
    {session : Session} (h : (session.output stream).Refuses bytes) :
    session.writeStream stream bytes = (-1, session.fail Errno.io) := by
  have hall : Console.writeAll (write stream.descriptor) bytes session session.errno =
      (-1, Errno.io, session) := by
    rw [Console.writeAll, deliver_stream hstream, accept_of_fits_eq_zero h.1]
    exact if_pos h
  calc
    session.writeStream stream bytes = session.writeAll stream.descriptor bytes := if_pos hstream
    _ = (-1, session.fail Errno.io) := by
      rw [writeAll, hall]
      rfl

/-- A write that is not refused puts down what there is room for. -/
theorem writeStream_of_not_refuses (hstream : stream.isWritable = true) {bytes : Bytes}
    {session : Session} (h : ¬ (session.output stream).Refuses bytes) :
    session.writeStream stream bytes =
      (Int.ofNat ((session.output stream).fits bytes), session.accept stream bytes) := by
  have hall : Console.writeAll (write stream.descriptor) bytes session session.errno =
      (Int.ofNat ((session.output stream).fits bytes), session.errno,
        session.accept stream bytes) := by
    rw [Console.writeAll, deliver_stream hstream]
    exact if_neg h
  calc
    session.writeStream stream bytes = session.writeAll stream.descriptor bytes := if_pos hstream
    _ = (Int.ofNat ((session.output stream).fits bytes), session.accept stream bytes) := by
      rw [writeAll, hall]
      cases stream <;> rfl

end Session

end StubLibc
