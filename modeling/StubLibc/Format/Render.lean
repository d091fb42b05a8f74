import StubLibc.Format.Layout

/-!
# Rendering

A directive fetches its arguments and contributes either a field or, for a conversion that is read
over but not printed (`o`, `n` and the floating ones), only its letter.  Rendering a format joins
the contributions in order.  A failing directive contributes nothing and ends the rendering; what
was written before it stays.
-/

namespace StubLibc.Format

/-- What one segment contributes. -/
inductive Piece where
  | shown (bytes : Bytes)
  | skipped (conversion : Conversion)
  deriving DecidableEq, Repr

namespace Piece

def bytes : Piece → Bytes
  | shown bytes => bytes
  | skipped _ => []

/-- The conversion read over. -/
def skips : Piece → List Conversion
  | shown _ => []
  | skipped conversion => [conversion]

end Piece

namespace Length

/-- A signed argument as a value of the C type that the modifier names. -/
def narrowSigned (length : Length) (value : Int64) : Int :=
  match length with
  | hh => value.toInt8.toInt
  | h => value.toInt16.toInt
  | plain => value.toInt32.toInt
  | _ => value.toInt

/-- An unsigned argument as a value of the C type that the modifier names. -/
def narrowUnsigned (length : Length) (value : UInt64) : Nat :=
  match length with
  | hh => value.toUInt8.toNat
  | h => value.toUInt16.toNat
  | plain => value.toUInt32.toNat
  | _ => value.toNat

end Length

namespace Directive

def sign (flags : Flags) (value : Int) : Bytes :=
  if value < 0 then Bytes.ofAscii ['-']
  else if flags.forceSign then Bytes.ofAscii ['+']
  else if flags.spaceSign then Bytes.ofAscii [' ']
  else []

/-- The field of `d` and `i`. -/
def signedField (directive : Directive) (layout : Layout) : Fetch Field := do
  let value := directive.length.narrowSigned (← Fetch.arg Cursor.nextInt)
  pure (.number (sign layout.flags value) []
    (Bytes.ofAscii (Numeral.digits .decimal value.natAbs)))

/-- The field of `u`, `x` and `X`: the number in `radix`, with `mark` before it in the alternate
form of a number other than zero. -/
def unsignedField (directive : Directive) (layout : Layout) (radix : Radix) (mark : Bytes) :
    Fetch Field := do
  let value := directive.length.narrowUnsigned (← Fetch.arg Cursor.nextUint)
  let mark := if layout.flags.altForm ∧ value ≠ 0 then mark else []
  pure (.number [] mark (Bytes.ofAscii (Numeral.digits radix value)))

/-- The field of `c`: the low byte of the argument. -/
def charField : Fetch Field := do
  let value ← Fetch.arg Cursor.nextInt
  pure (.text [value.toUInt64.toUInt8])

/-- What `s` prints for NULL. -/
def nullText : Bytes := Bytes.ofAscii ['(', 'n', 'u', 'l', 'l', ')']

/-- The field of `s`: the string, cut to the precision. -/
def strField (layout : Layout) : Fetch Field := do
  let bytes := (← Fetch.arg Cursor.nextStr).getD nullText
  let shown :=
    match layout.precision with
    | some precision => bytes.take precision
    | none => bytes
  pure (.text shown)

/-- The field of `p`: the address in hexadecimal. -/
def ptrField : Fetch Field := do
  let address ← Fetch.arg Cursor.nextPtr
  pure (.text (Bytes.ofAscii ('0' :: 'x' :: Numeral.digits .hexLower address.toNat)))

/-- The field of a directive, if it is printed. -/
def field? (directive : Directive) (layout : Layout) : Option (Fetch Field) :=
  match directive.conversion with
  | .d | .i => some (directive.signedField layout)
  | .u => some (directive.unsignedField layout .decimal [])
  | .x => some (directive.unsignedField layout .hexLower (Bytes.ofAscii ['0', 'x']))
  | .X => some (directive.unsignedField layout .hexUpper (Bytes.ofAscii ['0', 'X']))
  | .c => some charField
  | .s => some (strField layout)
  | .p => some ptrField
  | _ => none

/-- A conversion that is not printed: its argument is fetched all the same.  A long double cannot
be fetched. -/
def skip (directive : Directive) : Fetch Piece := do
  if directive.isLongDouble then
    throw (.longDouble directive.conversion)
  match directive.conversion.argKind with
  | .ptr => let _ ← Fetch.arg Cursor.nextPtr
  | .uint => let _ ← Fetch.arg Cursor.nextUint
  | _ => let _ ← Fetch.arg Cursor.nextDouble
  pure (.skipped directive.conversion)

/-- What a directive does behind its layout. -/
def renderOwn (directive : Directive) (layout : Layout) : Fetch Piece :=
  match directive.field? layout with
  | some field => do pure (.shown (layout.bytes (← field)))
  | none => directive.skip

def render (directive : Directive) : Fetch Piece := do
  let layout ← Layout.resolve directive
  directive.renderOwn layout

end Directive

def Segment.render : Segment → Fetch Piece
  | .literal bytes => pure (.shown bytes)
  | .percent => pure (.shown [Segment.percentByte])
  | .directive spec => spec.render

/-- The outcome of rendering: what was written, the conversions read over or the failure that
ended it, and the cursor where it stopped. -/
structure Rendering where
  written : Bytes
  result : Except FormatError (List Conversion)
  cursor : Cursor

namespace Rendering

/-- Puts one segment's contribution before the outcome of the segments after it. -/
def prepend (piece : Piece) (rest : Rendering) : Rendering where
  written := piece.bytes ++ rest.written
  result := rest.result.map (piece.skips ++ ·)
  cursor := rest.cursor

end Rendering

/-- Renders segments in order, fetching from `cursor`. -/
def render : List Segment → Cursor → Rendering
  | [], cursor => ⟨[], .ok [], cursor⟩
  | segment :: rest, cursor =>
    match segment.render cursor with
    | (.ok piece, after) => (render rest after).prepend piece
    | (.error error, after) => ⟨[], .error error, after⟩

/-- Renders a format string against a whole argument list: the bytes and the conversions read
over.  Arguments left over are ignored. -/
def renderFormat (format : Bytes) (args : List Arg) : Except FormatError (Bytes × List Conversion) :=
  let rendering := render (Segment.ofFormat format) (Cursor.ofArgs args)
  rendering.result.map fun skipped => (rendering.written, skipped)

end StubLibc.Format
