import StubLibc.Format.Render

/-!
# Rendering into a buffer

`emit` renders segments behind the bytes that a buffer holds already.  A directive is laid out,
fetches its own argument and is then written part by part: fill, sign, base mark, zeros and digits.
A failure keeps the cursor and the buffer as they are at that point, so that another format can be
rendered from there.
-/

namespace StubLibc.Format

/-- How far a rendering has come: the arguments that are left, and the bytes written. -/
structure Progress where
  cursor : Cursor
  buffer : Bytes
  deriving DecidableEq

/-- Rendering into a buffer: a failure keeps the progress made. -/
abbrev Emit := ExceptT FormatError (StateM Progress)

namespace Emit

/-- Fetches without writing. -/
def fetch {α : Type} (action : Fetch α) : Emit α := fun progress =>
  let (result, cursor) := action progress.cursor
  (result, { progress with cursor })

/-- Writes bytes at the end of the buffer. -/
def put (bytes : Bytes) : Emit Unit := fun progress =>
  (.ok (), { progress with buffer := progress.buffer ++ bytes })

/-- Writes a byte `count` times. -/
def pad (byte : UInt8) (count : Nat) : Emit Unit := put (List.replicate count byte)

/-- Writes what is shown, with no conversion read over. -/
def shown (write : Emit Unit) : Emit (List Conversion) := do
  write
  pure []

end Emit

open Emit

/-! ## Fields -/

/-- How the counts of a field are computed, by operations that may have effects.  The fill is what
the body leaves of the width. -/
structure Counting (m : Type → Type) where
  sum (first second : Nat) : m Nat
  difference (first second : Nat) : m Nat
  fill (width body : Nat) : m Nat

/-- Counts without bounds; a difference below zero is zero. -/
def Counting.plain : Counting Id where
  sum first second := first + second
  difference first second := first - second
  fill width body := width - body

namespace Layout

variable {m : Type → Type} [Monad m]

/-- The writing of a body padded with spaces to the width. -/
def textWriter (counting : Counting m) (layout : Layout) (body : Bytes) : m (Emit Unit) := do
  let fill ← counting.fill layout.width body.length
  if layout.flags.leftJustify then
    pure do
      put body
      pad space fill
  else
    pure do
      pad space fill
      put body

/-- The writing of a number padded to the width, with the zeros that its precision or the `0` flag
asks for. -/
def numberWriter (counting : Counting m) (layout : Layout) (sign mark digits : Bytes) :
    m (Emit Unit) := do
  let digits := layout.shownDigits digits
  let places := max (layout.precision.getD 0) digits.length
  let marked ← counting.sum sign.length mark.length
  let body ← counting.sum marked places
  let fill ← counting.fill layout.width body
  if layout.flags.leftJustify then
    let zeros ← counting.difference places digits.length
    pure do
      put sign
      put mark
      pad zero zeros
      put digits
      pad space fill
  else if layout.flags.zeroPad ∧ layout.precision = none then
    let total ← counting.sum fill places
    let zeros ← counting.difference total digits.length
    pure do
      put sign
      put mark
      pad zero zeros
      put digits
  else
    let zeros ← counting.difference places digits.length
    pure do
      pad space fill
      put sign
      put mark
      pad zero zeros
      put digits

/-- The writing of a field.  Its counts are computed before anything is written. -/
def writer (counting : Counting m) (layout : Layout) : Field → m (Emit Unit)
  | .text body => layout.textWriter counting body
  | .number sign mark digits => layout.numberWriter counting sign mark digits

/-- Writes a field. -/
def emitField (layout : Layout) (field : Field) : Emit Unit :=
  Id.run (layout.writer Counting.plain field)

end Layout

/-! ## Segments -/

/-- Writes one directive, its field by `write`, or gives its conversion if that is read over. -/
def Directive.emitBy (write : Layout → Field → Emit Unit) (directive : Directive) :
    Emit (List Conversion) := do
  let layout ← fetch (Layout.resolve directive)
  match directive.field? layout with
  | some action => do
    let field ← fetch action
    shown (write layout field)
  | none => Piece.skips <$> fetch directive.skip

/-- Writes one segment, its field by `write`. -/
def Segment.emitBy (write : Layout → Field → Emit Unit) : Segment → Emit (List Conversion)
  | .literal bytes => shown (put bytes)
  | .percent => shown (put [Segment.percentByte])
  | .directive spec => spec.emitBy write

/-- Writes segments in order, their fields by `write`, and gives the conversions read over. -/
def emitBy (write : Layout → Field → Emit Unit) : List Segment → Emit (List Conversion)
  | [] => pure []
  | segment :: rest => do
    let skipped ← segment.emitBy write
    let more ← emitBy write rest
    pure (skipped ++ more)

def Segment.emit (segment : Segment) : Emit (List Conversion) := segment.emitBy Layout.emitField

/-- Writes segments in order, and gives the conversions read over. -/
def emit (segments : List Segment) : Emit (List Conversion) := emitBy Layout.emitField segments

theorem emit_cons (segment : Segment) (rest : List Segment) :
    emit (segment :: rest) = (do
      let skipped ← segment.emit
      let more ← emit rest
      pure (skipped ++ more)) := rfl

end StubLibc.Format
