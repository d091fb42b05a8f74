import StubLibc.Format.Render
import StubLibc.Format.VaList
import StubLibc.Session.State

/-!
# Formatted output

The calls of the `printf` family.  A format is read, its arguments are collected, and it is
rendered; then each conversion that was read over is reported, and only then is the rendering
written.  A format that fails is reported by the error status alone: too large a field is an
overflow, anything else an invalid argument.
-/

namespace StubLibc.Session

open Console (Stream)
open Diagnostic (Record)
open Format

def formatErrno : FormatError → Int32
  | .fieldOverflow _ => Errno.overflow
  | .argument _ => Errno.invalid
  | .longDouble _ => Errno.invalid

/-- The answer of a call whose format failed. -/
def formatFailed (error : FormatError) (session : Session) : Int × Session :=
  (-1, session.fail (formatErrno error))

/-- Renders segments against typed arguments and reports the conversions read over. -/
def renderCollected (segments : List Segment) (args : List Arg) (session : Session) :
    Except FormatError Bytes × Session :=
  let rendering := render segments (Cursor.ofArgs args)
  match rendering.result with
  | .error error => (.error error, session)
  | .ok skipped =>
    (.ok rendering.written,
      skipped.foldl
        (fun session conversion => session.diagnose (Record.unknownSpecifier conversion.byte))
        session)

/-- Renders a format against a C argument list. -/
def renderCall (format : Bytes) (args : VaList) (session : Session) :
    Except FormatError Bytes × Session :=
  let segments := Segment.ofFormat format
  match Slot.ofSegments segments with
  | .error error => (.error error, session)
  | .ok slots => renderCollected segments (Slot.collect slots args) session

/-- The length of a rendering as a call answers it; one above the largest `int` is an overflow. -/
def answerLength (length : Nat) (session : Session) : Int × Session :=
  if length > maxField then formatFailed (.fieldOverflow length) session else (length, session)

/-- Renders a format to a stream. -/
def printTo (stream : Stream) (format : Pointer) (args : VaList) (session : Session) :
    Int × Session :=
  match CString.bytes? format with
  | none => (-1, session.fail Errno.invalid)
  | some format =>
    match renderCall format args session with
    | (.error error, session) => formatFailed error session
    | (.ok rendered, session) =>
      let (length, session) := answerLength rendered.length session
      if length < 0 then (length, session)
      else
        let (written, session) := writeStream stream rendered session
        if written < 0 then (-1, session) else (length, session)

/-- Renders a format into the first `size` bytes of a buffer. -/
def printInto (buffer : Option Bytes) (size : Nat) (format : Pointer) (args : VaList)
    (session : Session) : Int × Option Bytes × Session :=
  match CString.bytes? format with
  | none => (-1, buffer, session.fail Errno.invalid)
  | some format =>
    if buffer.isNone ∧ size > 0 then (-1, buffer, session.fail Errno.invalid)
    else
      match renderCall format args session with
      | (.error error, session) =>
        let (answer, session) := formatFailed error session
        (answer, buffer, session)
      | (.ok rendered, session) =>
        let buffer := buffer.map fun memory =>
          (CString.copyTruncated (memory.take size) rendered).buffer ++ memory.drop size
        let (answer, session) := answerLength rendered.length session
        (answer, buffer, session)

end StubLibc.Session
