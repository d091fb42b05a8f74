import StubLibc.Argument.Basic
import StubLibc.Numeral

/-!
# Conversion directives

The grammar of one `%` directive of a format string: flags, an optional width, an optional
precision, a length modifier and the conversion letter.  `Directive.parse?` reads a directive that
starts right after its `%` and gives back what follows it; it fails exactly when no conversion
letter stands where one is due.

Fields too large for a machine word are held at `Numeral.wordMax`; whether a field is small enough
to be laid out is decided when it is rendered, not here.
-/

namespace StubLibc.Format

/-! ## Parts of a directive -/

/-- The flags that may stand in any order and number before the width. -/
structure Flags where
  /-- `-`: pad on the right. -/
  leftJustify : Bool := false
  /-- `+`: write a sign before a non-negative signed number. -/
  forceSign : Bool := false
  /-- A space: write a space where a sign would stand. -/
  spaceSign : Bool := false
  /-- `#`: mark hexadecimal numbers. -/
  altForm : Bool := false
  /-- `0`: pad numbers with zeros. -/
  zeroPad : Bool := false
  deriving DecidableEq, Repr

/-- A width or a precision as it is written. -/
inductive Extent where
  | absent
  | fixed (value : Nat)
  /-- `*`: taken from the argument list. -/
  | star
  deriving DecidableEq, Repr

inductive Length where
  | plain
  | hh
  | h
  | l
  | ll
  /-- `L`: long double for floating conversions, as `ll` for integers. -/
  | bigL
  | z
  | j
  | t
  deriving DecidableEq, Repr

inductive Conversion where
  | d
  | i
  | u
  | x
  | X
  | o
  | s
  | c
  | p
  | n
  | f
  | F
  | e
  | E
  | g
  | G
  | a
  | A
  deriving DecidableEq, Repr

namespace Conversion

def all : List Conversion :=
  [d, i, u, x, X, o, s, c, p, n, f, F, e, E, g, G, a, A]

def letter : Conversion → Char
  | d => 'd'
  | i => 'i'
  | u => 'u'
  | x => 'x'
  | X => 'X'
  | o => 'o'
  | s => 's'
  | c => 'c'
  | p => 'p'
  | n => 'n'
  | f => 'f'
  | F => 'F'
  | e => 'e'
  | E => 'E'
  | g => 'g'
  | G => 'G'
  | a => 'a'
  | A => 'A'

/-- The letter as it stands in a format. -/
def byte (conversion : Conversion) : UInt8 := conversion.letter.toUInt8

def ofByte? (byte : UInt8) : Option Conversion :=
  all.find? fun conversion => conversion.byte == byte

/-- The class of the argument that a conversion takes for itself. -/
def argKind : Conversion → ArgKind
  | d | i | c => .int
  | u | x | X | o => .uint
  | s => .str
  | p | n => .ptr
  | f | F | e | E | g | G | a | A => .double

theorem mem_all (conversion : Conversion) : conversion ∈ all := by
  cases conversion <;> decide

@[simp]
theorem ofByte?_byte (conversion : Conversion) : ofByte? conversion.byte = some conversion := by
  cases conversion <;> decide

theorem byte_eq_of_ofByte? {byte : UInt8} {conversion : Conversion}
    (h : ofByte? byte = some conversion) : conversion.byte = byte := by
  simpa using List.find?_some h

end Conversion

structure Directive where
  flags : Flags
  width : Extent
  precision : Extent
  length : Length
  conversion : Conversion
  deriving DecidableEq, Repr

/-- A floating conversion with the modifier `L`. -/
def Directive.isLongDouble (directive : Directive) : Bool :=
  directive.length == .bigL && directive.conversion.argKind == .double

/-! ## Reading -/

namespace Flags

/-- Sets the flag that a byte stands for. -/
def add? (flags : Flags) (byte : UInt8) : Option Flags :=
  match byte with
  | 0x2D => some { flags with leftJustify := true }
  | 0x2B => some { flags with forceSign := true }
  | 0x20 => some { flags with spaceSign := true }
  | 0x23 => some { flags with altForm := true }
  | 0x30 => some { flags with zeroPad := true }
  | _ => none

/-- Reads as many flags as there are. -/
def scan (flags : Flags) : Bytes → Flags × Bytes
  | [] => (flags, [])
  | byte :: rest =>
    match flags.add? byte with
    | some more => scan more rest
    | none => (flags, byte :: rest)

/-- A forced sign overrides the space, and left justification the zeros. -/
def settle (flags : Flags) : Flags :=
  { flags with
    spaceSign := flags.spaceSign && !flags.forceSign
    zeroPad := flags.zeroPad && !flags.leftJustify }

end Flags

namespace Extent

/-- Reads a width: `*`, a run of digits, or nothing. -/
def scanWidth : Bytes → Extent × Bytes
  | 0x2A :: rest => (.star, rest)
  | text =>
    match text.takeWhile Bytes.isDigit with
    | [] => (.absent, text)
    | run => (.fixed (Numeral.readSaturating run), text.dropWhile Bytes.isDigit)

/-- Reads a precision: `.*`, a point and a run of digits that may be empty, or nothing. -/
def scanPrecision : Bytes → Extent × Bytes
  | 0x2E :: 0x2A :: rest => (.star, rest)
  | 0x2E :: text =>
    (.fixed (Numeral.readSaturating (text.takeWhile Bytes.isDigit)),
      text.dropWhile Bytes.isDigit)
  | text => (.absent, text)

end Extent

/-- Reads a length modifier, the longer spelling first. -/
def Length.scan : Bytes → Length × Bytes
  | 0x68 :: 0x68 :: rest => (.hh, rest)
  | 0x68 :: rest => (.h, rest)
  | 0x6C :: 0x6C :: rest => (.ll, rest)
  | 0x6C :: rest => (.l, rest)
  | 0x4C :: rest => (.bigL, rest)
  | 0x7A :: rest => (.z, rest)
  | 0x6A :: rest => (.j, rest)
  | 0x74 :: rest => (.t, rest)
  | text => (.plain, text)

/-- Reads the directive at the front of `text`, which starts right after the `%`, and gives it
back with the bytes that follow it. -/
def Directive.parse? (text : Bytes) : Option (Directive × Bytes) :=
  let (flags, text) := Flags.scan {} text
  let (width, text) := Extent.scanWidth text
  let (precision, text) := Extent.scanPrecision text
  let (length, text) := Length.scan text
  match text with
  | [] => none
  | byte :: rest =>
    (Conversion.ofByte? byte).map fun conversion =>
      (⟨flags.settle, width, precision, length, conversion⟩, rest)

/-! ## A directive takes at least one byte -/

theorem Flags.length_scan_le (flags : Flags) (text : Bytes) :
    (flags.scan text).2.length ≤ text.length := by
  induction text generalizing flags with
  | nil => simp [scan]
  | cons byte rest ih =>
    unfold scan
    split
    · exact Nat.le_succ_of_le (ih _)
    · simp

theorem Extent.length_scanWidth_le (text : Bytes) :
    (Extent.scanWidth text).2.length ≤ text.length := by
  have hdrop : (text.dropWhile Bytes.isDigit).length ≤ text.length :=
    (List.dropWhile_suffix _).length_le
  unfold scanWidth
  split
  · simp
  · split
    · simp
    · exact hdrop

theorem Extent.length_scanPrecision_le (text : Bytes) :
    (Extent.scanPrecision text).2.length ≤ text.length := by
  unfold scanPrecision
  split
  · simp
    omega
  · rename_i rest _
    have hdrop : (rest.dropWhile Bytes.isDigit).length ≤ rest.length :=
      (List.dropWhile_suffix _).length_le
    simp
    omega
  · simp

theorem Length.length_scan_le (text : Bytes) : (Length.scan text).2.length ≤ text.length := by
  unfold scan
  split <;> simp <;> omega

theorem Directive.length_parse?_lt {text rest : Bytes} {directive : Directive}
    (h : Directive.parse? text = some (directive, rest)) : rest.length < text.length := by
  unfold parse? at h
  have hflags := Flags.length_scan_le {} text
  have hwidth := Extent.length_scanWidth_le (Flags.scan {} text).2
  have hprecision :=
    Extent.length_scanPrecision_le (Extent.scanWidth (Flags.scan {} text).2).2
  have hlength := Length.length_scan_le
    (Extent.scanPrecision (Extent.scanWidth (Flags.scan {} text).2).2).2
  dsimp only at h
  split at h
  · simp at h
  · rename_i heq
    simp only [Option.map_eq_some_iff, Prod.mk.injEq] at h
    obtain ⟨_, _, _, hrest⟩ := h
    subst hrest
    rw [heq] at hlength
    simp only [List.length_cons] at hlength
    omega

end StubLibc.Format
