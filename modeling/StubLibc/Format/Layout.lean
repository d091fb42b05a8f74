import StubLibc.Format.Slot

/-!
# Field layout

A `Layout` is a directive's flags, width and precision after the `*` arguments have been fetched.
It is asked for a field: a text is padded with spaces, and a number is put together from a sign, a
base mark and digits, with the zeros that the precision or the `0` flag asks for.

No field of a layout exceeds the largest `int`, so a laid-out field is always short enough for the
sums below to fit a machine word.
-/

namespace StubLibc.Format

/-- The largest width or precision, the largest value of a C `int`. -/
def maxField : Nat := 0x7FFFFFFF

/-- Fetching arguments while rendering: a failure keeps the cursor where it stopped. -/
abbrev Fetch := ExceptT FormatError (StateM Cursor)

/-- A cursor step as a step of rendering. -/
def Fetch.arg {α : Type} (step : Cursor → Except ArgFault α × Cursor) : Fetch α := fun cursor =>
  match step cursor with
  | (.ok value, after) => (.ok value, after)
  | (.error fault, after) => (.error (.argument fault), after)

/-- Flags, width and precision with their final values. -/
structure Layout where
  flags : Flags
  width : Nat
  precision : Option Nat
  deriving DecidableEq, Repr

namespace Layout

/-- Refuses a field above the largest `int`. -/
def checkField (value : Nat) : Except FormatError Nat :=
  if value > maxField then .error (.fieldOverflow value) else .ok value

/-- The width and the flags it leaves.  A negative `*` width means left justification and its
absolute value. -/
def fetchWidth (flags : Flags) : Extent → Fetch (Flags × Nat)
  | .absent => pure (flags, 0)
  | .fixed width => pure (flags, width)
  | .star => do
    let width := (← Fetch.arg Cursor.nextInt).toInt32.toInt
    if width < 0 then
      pure ({ flags with leftJustify := true, zeroPad := false }, width.natAbs)
    else
      pure (flags, width.natAbs)

/-- The precision.  A negative `*` precision counts as none. -/
def fetchPrecision : Extent → Fetch (Option Nat)
  | .absent => pure none
  | .fixed precision => pure (some precision)
  | .star => do
    let precision := (← Fetch.arg Cursor.nextInt).toInt32.toInt
    pure (if precision < 0 then none else some precision.toNat)

/-- The layout of a directive.  Both `*` arguments are fetched before either field is checked, the
width first. -/
def resolve (directive : Directive) : Fetch Layout := do
  let (flags, width) ← fetchWidth directive.flags directive.width
  let precision ← fetchPrecision directive.precision
  let width ← ExceptT.mk (pure (checkField width))
  let precision ← ExceptT.mk (pure (precision.mapM checkField))
  pure ⟨flags, width, precision⟩

abbrev space : UInt8 := 0x20

abbrev zero : UInt8 := 0x30

/-- A body padded with spaces to the width. -/
def text (layout : Layout) (body : Bytes) : Bytes :=
  let fill := List.replicate (layout.width - body.length) space
  if layout.flags.leftJustify then body ++ fill else fill ++ body

/-- The digits that are shown: with precision zero, the number zero has none. -/
def shownDigits (layout : Layout) (digits : Bytes) : Bytes :=
  if layout.precision = some 0 ∧ digits = [zero] then [] else digits

/-- A number padded to the width, with `mark` the base mark. -/
def number (layout : Layout) (sign mark digits : Bytes) : Bytes :=
  let digits := layout.shownDigits digits
  let places := max (layout.precision.getD 0) digits.length
  let fill := layout.width - (sign.length + mark.length + places)
  let body := List.replicate (places - digits.length) zero ++ digits
  if layout.flags.leftJustify then
    sign ++ mark ++ body ++ List.replicate fill space
  else if layout.flags.zeroPad ∧ layout.precision = none then
    sign ++ mark ++ List.replicate fill zero ++ body
  else
    List.replicate fill space ++ sign ++ mark ++ body

end Layout

/-- What a layout is asked for. -/
inductive Field where
  | text (body : Bytes)
  | number (sign mark digits : Bytes)
  deriving DecidableEq, Repr

/-- A field laid out. -/
def Layout.bytes (layout : Layout) : Field → Bytes
  | .text body => layout.text body
  | .number sign mark digits => layout.number sign mark digits

end StubLibc.Format
