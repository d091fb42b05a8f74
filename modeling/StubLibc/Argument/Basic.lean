import StubLibc.Bytes

/-!
# Variadic arguments

One trailing argument of a formatted-output call, with the class a C argument list gives it.  The
two integer classes carry the same 64 bits; a double is kept as its bit pattern, since no
conversion prints one; a string is the bytes before its terminator, or `none` for NULL.
-/

namespace StubLibc

/-- The class of an argument. -/
inductive ArgKind where
  | int
  | uint
  | double
  | ptr
  | str
  deriving DecidableEq, Repr

def ArgKind.label : ArgKind → String
  | int => "Int"
  | uint => "Uint"
  | double => "Double"
  | ptr => "Ptr"
  | str => "Str"

/-- A typed argument. -/
inductive Arg where
  | int (value : Int64)
  | uint (value : UInt64)
  | double (bits : UInt64)
  | ptr (address : UInt64)
  | str (text : Option Bytes)
  deriving DecidableEq

namespace Arg

def kind : Arg → ArgKind
  | int _ => .int
  | uint _ => .uint
  | double _ => .double
  | ptr _ => .ptr
  | str _ => .str

/-- The signed reading of an integer of either class. -/
def asInt? : Arg → Option Int64
  | int value => some value
  | uint value => some value.toInt64
  | _ => none

/-- The unsigned reading of an integer of either class. -/
def asUint? : Arg → Option UInt64
  | int value => some value.toUInt64
  | uint value => some value
  | _ => none

/-- The bit pattern of a double. -/
def asDouble? : Arg → Option UInt64
  | double bits => some bits
  | _ => none

/-- The address of a pointer. -/
def asPtr? : Arg → Option UInt64
  | ptr address => some address
  | _ => none

/-- The text of a string, `some none` for NULL. -/
def asStr? : Arg → Option (Option Bytes)
  | str text => some text
  | _ => none

end Arg

end StubLibc
