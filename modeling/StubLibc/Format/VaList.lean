import StubLibc.CString
import StubLibc.Format.Slot

/-!
# C argument lists

The arguments of a variadic C call travel in two sequences, machine words and doubles, and each
fetch takes the next of its class.  `Slot.collect` drains a list along the slots of a format into
typed arguments, reading each string no further than its slot allows.

A list that runs out gives zero words, hence NULL strings, and zero doubles.
-/

namespace StubLibc.Format

/-- A machine word: a number, or the address of readable bytes. -/
inductive Word where
  | number (bits : UInt64)
  | address (memory : Bytes)
  deriving DecidableEq, Repr

namespace Word

/-- The number in a word.  Addresses of readable bytes are not numbered. -/
def bits : Word → UInt64
  | number bits => bits
  | address _ => 0

/-- The pointer in a word.  Nothing can be read through a number. -/
def pointer : Word → Pointer
  | number _ => none
  | address memory => some memory

end Word

/-- The arguments of a variadic call. -/
structure VaList where
  words : List Word
  doubles : List UInt64
  deriving DecidableEq, Repr

namespace VaList

def nextWord : VaList → Word × VaList
  | ⟨[], doubles⟩ => (.number 0, ⟨[], doubles⟩)
  | ⟨word :: words, doubles⟩ => (word, ⟨words, doubles⟩)

def nextDouble : VaList → UInt64 × VaList
  | ⟨words, []⟩ => (0, ⟨words, []⟩)
  | ⟨words, bits :: doubles⟩ => (bits, ⟨words, doubles⟩)

/-- Adds a typed argument at the front.  A string is passed by the address of its bytes and a
terminator. -/
def push (arg : Arg) (list : VaList) : VaList :=
  match arg with
  | .int value => { list with words := .number value.toUInt64 :: list.words }
  | .uint value => { list with words := .number value :: list.words }
  | .ptr address => { list with words := .number address :: list.words }
  | .double bits => { list with doubles := bits :: list.doubles }
  | .str none => { list with words := .number 0 :: list.words }
  | .str (some text) => { list with words := .address (text ++ [0]) :: list.words }

/-- The list that passes typed arguments. -/
def ofArgs (args : List Arg) : VaList := args.foldr push ⟨[], []⟩

end VaList

namespace Slot

/-- Fetches the argument of a slot; `previous` is the argument fetched before it. -/
def fetch (slot : Slot) (previous : Option Arg) (list : VaList) : Arg × VaList :=
  match slot with
  | int =>
    let (word, list) := list.nextWord
    (.int word.bits.toInt64, list)
  | uint =>
    let (word, list) := list.nextWord
    (.uint word.bits, list)
  | ptr =>
    let (word, list) := list.nextWord
    (.ptr word.bits, list)
  | double =>
    let (bits, list) := list.nextDouble
    (.double bits, list)
  | str limit =>
    let (word, list) := list.nextWord
    (.str (CString.bounded? word.pointer (limit.bound? previous)), list)

/-- Fetches one argument for each slot, after `previous`. -/
def collectAfter (previous : Option Arg) : List Slot → VaList → List Arg
  | [], _ => []
  | slot :: rest, list =>
    let (arg, list) := slot.fetch previous list
    arg :: collectAfter (some arg) rest list

/-- Fetches one argument for each slot. -/
def collect (slots : List Slot) (list : VaList) : List Arg := collectAfter none slots list

end Slot

end StubLibc.Format
