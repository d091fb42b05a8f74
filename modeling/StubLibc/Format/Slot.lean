import StubLibc.Argument.Cursor
import StubLibc.Format.Segment

/-!
# The arguments a format takes

`Slot.ofSegments` lists, before anything is fetched, the class of each argument that a format
takes: one for a `*` width, one for a `*` precision, and one for the conversion.  A string slot
also says how far its bytes may be read, because with a precision the string need not be
terminated.  A long double cannot be passed through, so a format that needs one has no list.
-/

namespace StubLibc.Format

/-- Why a format cannot be rendered. -/
inductive FormatError where
  | argument (fault : ArgFault)
  /-- A width or precision above the largest `int`. -/
  | fieldOverflow (value : Nat)
  | longDouble (conversion : Conversion)
  deriving DecidableEq, Repr

def FormatError.message : FormatError → String
  | argument fault => fault.message
  | fieldOverflow value => "field width or precision " ++ Numeral.ofNat value ++ " exceeds INT_MAX"
  | longDouble conversion =>
    "long double conversion %L" ++ String.singleton conversion.letter ++ " is not supported"

/-- How far a string argument may be read. -/
inductive StrLimit where
  /-- Up to its terminator. -/
  | terminated
  /-- At most this many bytes. -/
  | bytes (count : Nat)
  /-- At most as many bytes as the argument before it says. -/
  | previousArg
  deriving DecidableEq, Repr

/-- The bound on the bytes read, given the argument before the string.  A negative `*` precision
counts as none. -/
def StrLimit.bound? : StrLimit → Option Arg → Option Nat
  | terminated, _ => none
  | bytes count, _ => some count
  | previousArg, some (.int value) =>
    if value.toInt32 < 0 then none else some value.toInt32.toInt.toNat
  | previousArg, _ => none

/-- One argument that a format takes. -/
inductive Slot where
  | int
  | uint
  | double
  | ptr
  | str (limit : StrLimit)
  deriving DecidableEq, Repr

namespace Slot

def kind : Slot → ArgKind
  | int => .int
  | uint => .uint
  | double => .double
  | ptr => .ptr
  | str _ => .str

/-- The slot that a `*` takes. -/
def ofExtent : Extent → List Slot
  | .star => [int]
  | _ => []

/-- How far the string of a directive may be read. -/
def strLimit : Extent → StrLimit
  | .absent => .terminated
  | .fixed count => .bytes count
  | .star => .previousArg

/-- The slot of the conversion itself. -/
def ofConversion (directive : Directive) : Slot :=
  match directive.conversion.argKind with
  | .int => int
  | .uint => uint
  | .double => double
  | .ptr => ptr
  | .str => str (strLimit directive.precision)

/-- The slots of one directive: width, precision, conversion. -/
def ofDirective (directive : Directive) : List Slot :=
  ofExtent directive.width ++ ofExtent directive.precision ++ [ofConversion directive]

/-- The slots of a format, or the first long double conversion in it. -/
def ofSegments : List Segment → Except FormatError (List Slot)
  | [] => .ok []
  | .directive directive :: rest =>
    if directive.isLongDouble then .error (.longDouble directive.conversion)
    else (ofSegments rest).map (ofDirective directive ++ ·)
  | _ :: rest => ofSegments rest

end Slot

end StubLibc.Format
