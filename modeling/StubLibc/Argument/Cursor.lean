import StubLibc.Argument.Basic
import StubLibc.Numeral

/-!
# Fetching arguments

A cursor walks an argument list from the front.  A fetch past the end reports how many arguments
there were and does not move; a fetch of the wrong class reports the position and both classes and
moves on all the same, so every argument is looked at once.
-/

namespace StubLibc

/-- Why an argument could not be fetched. -/
inductive ArgFault where
  /-- Argument `index` was asked for and the list holds only `available`. -/
  | exhausted (index available : Nat)
  /-- Argument `index` has another class than the one asked for. -/
  | kindMismatch (index : Nat) (expected found : ArgKind)
  deriving DecidableEq, Repr

def ArgFault.message : ArgFault → String
  | exhausted index available =>
    "variadic argument " ++ Numeral.ofNat index ++ " requested but only " ++
      Numeral.ofNat available ++ " supplied"
  | kindMismatch index expected found =>
    "variadic argument " ++ Numeral.ofNat index ++ " is " ++ found.label ++ ", expected " ++
      expected.label

/-- How many arguments have been fetched, and those that have not. -/
structure Cursor where
  position : Nat
  pending : List Arg
  deriving DecidableEq

namespace Cursor

def ofArgs (args : List Arg) : Cursor := ⟨0, args⟩

def remaining (cursor : Cursor) : Nat := cursor.pending.length

/-- Ends the walk: the number of arguments that were never fetched. -/
def finish (cursor : Cursor) : Nat := cursor.remaining

/-- Fetches the next argument whatever its class. -/
def next : Cursor → Except ArgFault Arg × Cursor
  | ⟨position, []⟩ => (.error (.exhausted position position), ⟨position, []⟩)
  | ⟨position, arg :: rest⟩ => (.ok arg, ⟨position + 1, rest⟩)

/-- Fetches the next argument and reads it as the class `expected`. -/
def nextAs {α : Type} (expected : ArgKind) (read? : Arg → Option α) (cursor : Cursor) :
    Except ArgFault α × Cursor :=
  match cursor.next with
  | (.error fault, after) => (.error fault, after)
  | (.ok arg, after) =>
    match read? arg with
    | some value => (.ok value, after)
    | none => (.error (.kindMismatch cursor.position expected arg.kind), after)

/-- Fetches a signed integer; an unsigned one is reread bit for bit. -/
def nextInt : Cursor → Except ArgFault Int64 × Cursor := nextAs .int Arg.asInt?

/-- Fetches an unsigned integer; a signed one is reread bit for bit. -/
def nextUint : Cursor → Except ArgFault UInt64 × Cursor := nextAs .uint Arg.asUint?

def nextDouble : Cursor → Except ArgFault UInt64 × Cursor := nextAs .double Arg.asDouble?

def nextPtr : Cursor → Except ArgFault UInt64 × Cursor := nextAs .ptr Arg.asPtr?

def nextStr : Cursor → Except ArgFault (Option Bytes) × Cursor := nextAs .str Arg.asStr?

@[simp]
theorem position_ofArgs (args : List Arg) : (ofArgs args).position = 0 := rfl

@[simp]
theorem remaining_ofArgs (args : List Arg) : (ofArgs args).remaining = args.length := rfl

@[simp]
theorem next_cons (position : Nat) (arg : Arg) (rest : List Arg) :
    next ⟨position, arg :: rest⟩ = (.ok arg, ⟨position + 1, rest⟩) := rfl

end Cursor

end StubLibc
