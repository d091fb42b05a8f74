import Mathlib.Data.List.Induction
import Mathlib.Data.Nat.Digits.Defs
import Mathlib.Data.Set.List
import StubLibc.Format.Directive

/-!
# The grammar of directives

A `Spelling` is a directive as it is written: flags in any order and number, a width, a precision, a
length modifier and a conversion letter.  It has the bytes that it is written with and the directive
that it means.  Reading accepts exactly the spellings: what it gives for a text is the meaning of
the one spelling that the text opens with, and it fails only where there is none.
-/

namespace StubLibc.Format

/-! ## Written directives -/

namespace Spelling

/-- A flag as it is written. -/
inductive Flag where
  | minus
  | plus
  | space
  | hash
  | zero
  deriving DecidableEq, Repr

def Flag.byte : Flag → UInt8
  | minus => '-'.toUInt8
  | plus => '+'.toUInt8
  | space => ' '.toUInt8
  | hash => '#'.toUInt8
  | zero => '0'.toUInt8

/-- What flags mean together: a forced sign clears the space, and left justification the zeros. -/
def Flag.meaning (flags : List Flag) : Flags where
  leftJustify := .minus ∈ flags
  forceSign := .plus ∈ flags
  spaceSign := .space ∈ flags ∧ .plus ∉ flags
  altForm := .hash ∈ flags
  zeroPad := .zero ∈ flags ∧ .minus ∉ flags

abbrev Digit := Fin 10

def Digit.byte (digit : Digit) : UInt8 := UInt8.ofNat ('0'.toNat + digit)

/-- The number that digits stand for, the most significant first. -/
def Digit.value (run : List Digit) : Nat := Nat.ofDigits 10 (run.reverse.map Fin.val)

/-- A width as it is written. -/
inductive Width where
  | absent
  | star
  /-- Digits that do not start with zero, which would be a flag. -/
  | digits (first : Digit) (more : List Digit) (first_ne_zero : first ≠ 0)

namespace Width

def bytes : Width → Bytes
  | absent => []
  | star => Bytes.ofAscii ['*']
  | digits first more _ => (first :: more).map Digit.byte

def extent : Width → Extent
  | absent => .absent
  | star => .star
  | digits first more _ => .fixed (min Numeral.wordMax (Digit.value (first :: more)))

end Width

/-- A precision as it is written. -/
inductive Precision where
  | absent
  | star
  /-- A point and digits, perhaps none. -/
  | digits (run : List Digit)

namespace Precision

def bytes : Precision → Bytes
  | absent => []
  | star => Bytes.ofAscii ['.', '*']
  | digits run => Bytes.ofAscii ['.'] ++ run.map Digit.byte

def extent : Precision → Extent
  | absent => .absent
  | star => .star
  | digits run => .fixed (min Numeral.wordMax (Digit.value run))

end Precision

end Spelling

def Length.bytes : Length → Bytes
  | plain => []
  | hh => Bytes.ofAscii ['h', 'h']
  | h => Bytes.ofAscii ['h']
  | l => Bytes.ofAscii ['l']
  | ll => Bytes.ofAscii ['l', 'l']
  | bigL => Bytes.ofAscii ['L']
  | z => Bytes.ofAscii ['z']
  | j => Bytes.ofAscii ['j']
  | t => Bytes.ofAscii ['t']

/-- A directive as it is written, without its `%`. -/
structure Spelling where
  flags : List Spelling.Flag
  width : Spelling.Width
  precision : Spelling.Precision
  length : Length
  conversion : Conversion

namespace Spelling

def bytes (spelling : Spelling) : Bytes :=
  spelling.flags.map Flag.byte ++ spelling.width.bytes ++ spelling.precision.bytes ++
    spelling.length.bytes ++ [spelling.conversion.byte]

def directive (spelling : Spelling) : Directive where
  flags := Flag.meaning spelling.flags
  width := spelling.width.extent
  precision := spelling.precision.extent
  length := spelling.length
  conversion := spelling.conversion

end Spelling

open Spelling (Flag Digit)

variable {rest text : Bytes}

/-! ## Flags -/

namespace Flags

/-- The flags after more of them were read. -/
def extend (start : Flags) (flags : List Flag) : Flags where
  leftJustify := start.leftJustify || .minus ∈ flags
  forceSign := start.forceSign || .plus ∈ flags
  spaceSign := start.spaceSign || .space ∈ flags
  altForm := start.altForm || .hash ∈ flags
  zeroPad := start.zeroPad || .zero ∈ flags

theorem extend_nil (start : Flags) : start.extend [] = start := by
  simp [extend]

theorem settle_extend (flags : List Flag) : (extend {} flags).settle = Flag.meaning flags := by
  simp [settle, extend, Flag.meaning]

/-- Reading a flag sets it, whatever is read after it. -/
theorem exists_add?_byte (start : Flags) (flag : Flag) :
    ∃ next, start.add? flag.byte = some next ∧
      ∀ flags, next.extend flags = start.extend (flag :: flags) := by
  cases flag with
  | minus => exact ⟨{ start with leftJustify := true }, rfl, fun flags ↦ by simp [extend]⟩
  | plus => exact ⟨{ start with forceSign := true }, rfl, fun flags ↦ by simp [extend]⟩
  | space => exact ⟨{ start with spaceSign := true }, rfl, fun flags ↦ by simp [extend]⟩
  | hash => exact ⟨{ start with altForm := true }, rfl, fun flags ↦ by simp [extend]⟩
  | zero => exact ⟨{ start with zeroPad := true }, rfl, fun flags ↦ by simp [extend]⟩

theorem exists_flag_of_add? {start next : Flags} {byte : UInt8} (h : start.add? byte = some next) :
    ∃ flag : Flag, flag.byte = byte := by
  unfold add? at h
  split at h
  · exact ⟨.minus, rfl⟩
  · exact ⟨.plus, rfl⟩
  · exact ⟨.space, rfl⟩
  · exact ⟨.hash, rfl⟩
  · exact ⟨.zero, rfl⟩
  · cases h

/-- All flags are read in front of a text that opens with none. -/
theorem scan_append (start : Flags) (flags : List Flag)
    (hrest : ∀ flag : Flag, rest.head? ≠ some flag.byte) :
    start.scan (flags.map Flag.byte ++ rest) = (start.extend flags, rest) := by
  induction flags generalizing start with
  | nil =>
    rw [extend_nil, List.map_nil, List.nil_append]
    cases rest with
    | nil => rfl
    | cons byte more =>
      rw [scan]
      cases hadd : start.add? byte with
      | none => rfl
      | some next =>
        obtain ⟨flag, hflag⟩ := exists_flag_of_add? hadd
        exact absurd (congrArg some hflag.symm) (hrest flag)
  | cons flag flags ih =>
    obtain ⟨next, hadd, hextend⟩ := exists_add?_byte start flag
    rw [List.map_cons, List.cons_append, scan, hadd, ← hextend]
    exact ih next

/-- What is read as flags was written as flags, and no flag is left. -/
theorem exists_scan (start : Flags) (text : Bytes) :
    ∃ flags : List Flag, text = flags.map Flag.byte ++ (start.scan text).2 ∧
      (start.scan text).1 = start.extend flags ∧
      ∀ flag : Flag, (start.scan text).2.head? ≠ some flag.byte := by
  induction text generalizing start with
  | nil => exact ⟨[], rfl, (extend_nil start).symm, fun _ h ↦ nomatch h⟩
  | cons byte more ih =>
    rw [scan]
    cases hadd : start.add? byte with
    | none =>
      refine ⟨[], rfl, (extend_nil start).symm, fun flag hflag ↦ ?_⟩
      obtain ⟨next, hnext, -⟩ := exists_add?_byte start flag
      cases hflag
      rw [hadd] at hnext
      cases hnext
    | some next =>
      obtain ⟨flag, rfl⟩ := exists_flag_of_add? hadd
      obtain ⟨found, hfound, hextend⟩ := exists_add?_byte start flag
      obtain ⟨flags, htext, hmeaning, hrest⟩ := ih next
      rw [hadd, Option.some.injEq] at hfound
      refine ⟨flag :: flags, congrArg _ htext, ?_, hrest⟩
      rw [← hextend, ← hfound]
      exact hmeaning

end Flags

/-! ## Digits -/

namespace Spelling.Digit

theorem isDigit_byte (digit : Digit) : Bytes.isDigit digit.byte = true := by
  revert digit
  decide

theorem digitValue_byte (digit : Digit) : Bytes.digitValue digit.byte = digit := by
  revert digit
  decide

theorem byte_ne_star (digit : Digit) : digit.byte ≠ 0x2A := by
  revert digit
  decide

theorem exists_byte_eq {byte : UInt8} (h : Bytes.isDigit byte = true) :
    ∃ digit : Digit, Digit.byte digit = byte := by
  simp only [Bytes.isDigit, Bool.and_eq_true, decide_eq_true_eq, UInt8.le_iff_toNat_le,
    UInt8.reduceToNat] at h
  refine ⟨⟨byte.toNat - 48, by omega⟩, ?_⟩
  have hcode : '0'.toNat + (byte.toNat - 48) = byte.toNat := by
    have hzero : '0'.toNat = 48 := rfl
    omega
  rw [Digit.byte, hcode, UInt8.ofNat_toNat]

theorem exists_map_byte_eq {run : Bytes} (h : ∀ byte ∈ run, Bytes.isDigit byte = true) :
    ∃ digits : List Digit, digits.map Digit.byte = run := by
  have hrun : run ∈ Set.range (List.map Digit.byte) := by
    rw [Set.range_list_map]
    exact fun byte hbyte ↦ exists_byte_eq (h byte hbyte)
  exact hrun

/-- Reading digits gives their number, held at the largest word. -/
theorem readSaturating_map_byte (run : List Digit) :
    Numeral.readSaturating (run.map Digit.byte) = min Numeral.wordMax (value run) := by
  induction run using List.reverseRecOn with
  | nil => rfl
  | append_singleton run digit ih =>
    have hvalue : value (run ++ [digit]) = digit + 10 * value run := by
      rw [value, List.reverse_append, List.reverse_singleton, List.singleton_append,
        List.map_cons, Nat.ofDigits_cons, value]
    have hread : Numeral.readSaturating ((run ++ [digit]).map Digit.byte) =
        min Numeral.wordMax
          (min Numeral.wordMax (Numeral.readSaturating (run.map Digit.byte) * 10) + digit) := by
      rw [← digitValue_byte digit, Numeral.readSaturating, List.map_append, List.foldl_append]
      rfl
    rw [hread, ih, hvalue]
    omega

end Spelling.Digit

/-! ## Widths and precisions -/

section Extents

variable (hrest : ∀ byte, rest.head? = some byte → Bytes.isDigit byte = false)

include hrest

theorem takeWhile_digits (run : List Digit) :
    (run.map Digit.byte ++ rest).takeWhile Bytes.isDigit = run.map Digit.byte := by
  have hrun : ∀ byte ∈ run.map Digit.byte, Bytes.isDigit byte = true :=
    List.forall_mem_map.mpr fun digit _ ↦ Digit.isDigit_byte digit
  rw [List.takeWhile_append_of_pos hrun]
  cases rest with
  | nil => simp
  | cons byte more => simp [hrest byte rfl]

theorem dropWhile_digits (run : List Digit) :
    (run.map Digit.byte ++ rest).dropWhile Bytes.isDigit = rest := by
  have hrun : ∀ byte ∈ run.map Digit.byte, Bytes.isDigit byte = true :=
    List.forall_mem_map.mpr fun digit _ ↦ Digit.isDigit_byte digit
  rw [List.dropWhile_append_of_pos hrun]
  cases rest with
  | nil => rfl
  | cons byte more => simp [hrest byte rfl]

end Extents

namespace Extent

open Spelling (Width Precision)

/-- Reading a width that is not `*`. -/
theorem scanWidth_of_head?_ne (h : text.head? ≠ some 0x2A) :
    scanWidth text =
      if text.takeWhile Bytes.isDigit = [] then (.absent, text)
      else (.fixed (Numeral.readSaturating (text.takeWhile Bytes.isDigit)),
        text.dropWhile Bytes.isDigit) := by
  unfold scanWidth
  split
  · exact absurd rfl h
  · split
    · next hrun => rw [if_pos hrun]
    · next hrun => rw [if_neg hrun]

/-- What is read as a width was written as one, unless it starts with a zero. -/
theorem exists_scanWidth (hzero : text.head? ≠ some Flag.zero.byte) :
    ∃ width : Width, text = width.bytes ++ (scanWidth text).2 ∧
      (scanWidth text).1 = width.extent := by
  by_cases hstar : text.head? = some 0x2A
  · obtain ⟨rest, rfl⟩ := List.head?_eq_some_iff.mp hstar
    exact ⟨.star, rfl, rfl⟩
  rw [scanWidth_of_head?_ne hstar]
  by_cases hrun : text.takeWhile Bytes.isDigit = []
  · rw [if_pos hrun]
    exact ⟨.absent, rfl, rfl⟩
  rw [if_neg hrun]
  have hdigits : ∀ byte ∈ text.takeWhile Bytes.isDigit, Bytes.isDigit byte = true :=
    List.all_eq_true.mp List.all_takeWhile
  obtain ⟨run, hmap⟩ := Digit.exists_map_byte_eq hdigits
  rw [← hmap, Digit.readSaturating_map_byte]
  have htext : text = run.map Digit.byte ++ text.dropWhile Bytes.isDigit := by
    rw [hmap, List.takeWhile_append_dropWhile]
  cases run with
  | nil => exact absurd hmap.symm hrun
  | cons first more =>
    have hfirst : first ≠ 0 := by
      rintro rfl
      rw [htext] at hzero
      exact hzero rfl
    exact ⟨.digits first more hfirst, htext, rfl⟩

/-- A width is read whole in front of a text that does not go on with it. -/
theorem scanWidth_append (width : Width) (hstar : rest.head? ≠ some 0x2A)
    (hdigit : ∀ byte, rest.head? = some byte → Bytes.isDigit byte = false) :
    scanWidth (width.bytes ++ rest) = (width.extent, rest) := by
  cases width with
  | star => rfl
  | absent =>
    rw [Width.bytes, List.nil_append, scanWidth_of_head?_ne hstar]
    exact if_pos (takeWhile_digits hdigit [])
  | digits first more hfirst =>
    have hne : ((first :: more).map Digit.byte ++ rest).head? ≠ some 0x2A :=
      fun h ↦ Digit.byte_ne_star first (Option.some.inj h)
    rw [Width.bytes, scanWidth_of_head?_ne hne, takeWhile_digits hdigit, dropWhile_digits hdigit,
      Digit.readSaturating_map_byte]
    rfl

/-- What is read as a precision was written as one. -/
theorem exists_scanPrecision (text : Bytes) :
    ∃ precision : Precision, text = precision.bytes ++ (scanPrecision text).2 ∧
      (scanPrecision text).1 = precision.extent := by
  unfold scanPrecision
  split
  · exact ⟨.star, rfl, rfl⟩
  · next rest _ =>
    have hdigits : ∀ byte ∈ rest.takeWhile Bytes.isDigit, Bytes.isDigit byte = true :=
      List.all_eq_true.mp List.all_takeWhile
    obtain ⟨run, hmap⟩ := Digit.exists_map_byte_eq hdigits
    refine ⟨.digits run, ?_, ?_⟩
    · rw [Precision.bytes, hmap, List.append_assoc, List.takeWhile_append_dropWhile]
      rfl
    · rw [← hmap, Digit.readSaturating_map_byte]
      rfl
  · exact ⟨.absent, rfl, rfl⟩

theorem scanPrecision_point (h : text.head? ≠ some 0x2A) :
    scanPrecision (0x2E :: text) =
      (.fixed (Numeral.readSaturating (text.takeWhile Bytes.isDigit)),
        text.dropWhile Bytes.isDigit) := by
  unfold scanPrecision
  split
  · next heq =>
    cases heq
    exact absurd rfl h
  · next heq =>
    cases heq
    rfl
  · next hpoint => exact absurd rfl (hpoint text)

theorem scanPrecision_of_head?_ne (h : text.head? ≠ some 0x2E) :
    scanPrecision text = (.absent, text) := by
  unfold scanPrecision
  split
  · exact absurd rfl h
  · exact absurd rfl h
  · rfl

/-- A precision is read whole in front of a text that does not go on with it. -/
theorem scanPrecision_append (precision : Precision) (hpoint : rest.head? ≠ some 0x2E)
    (hstar : rest.head? ≠ some 0x2A)
    (hdigit : ∀ byte, rest.head? = some byte → Bytes.isDigit byte = false) :
    scanPrecision (precision.bytes ++ rest) = (precision.extent, rest) := by
  cases precision with
  | star => rfl
  | absent => exact scanPrecision_of_head?_ne hpoint
  | digits run =>
    have hne : (run.map Digit.byte ++ rest).head? ≠ some 0x2A := by
      cases run with
      | nil => exact hstar
      | cons first more => exact fun h ↦ Digit.byte_ne_star first (Option.some.inj h)
    have hread := scanPrecision_point hne
    rw [takeWhile_digits hdigit, dropWhile_digits hdigit, Digit.readSaturating_map_byte] at hread
    exact hread

end Extent

/-! ## Length modifiers -/

namespace Length

/-- What is read as a length modifier was written as it. -/
theorem bytes_scan (text : Bytes) : text = (scan text).1.bytes ++ (scan text).2 := by
  unfold scan
  split <;> rfl

/-- A length modifier is read whole in front of a conversion letter. -/
theorem scan_append (length : Length) (conversion : Conversion) (rest : Bytes) :
    scan (length.bytes ++ conversion.byte :: rest) = (length, conversion.byte :: rest) := by
  cases length with
  | plain => cases conversion <;> rfl
  | h => cases conversion <;> rfl
  | l => cases conversion <;> rfl
  | _ => rfl

end Length

/-! ## Whole directives -/

namespace Spelling

/-- The bytes that can start a length modifier or a conversion. -/
def letters : Bytes :=
  Bytes.ofAscii ['h', 'l', 'L', 'z', 'j', 't'] ++ Conversion.all.map Conversion.byte

/-- The text opens with one of the bytes. -/
def Opens (opening text : Bytes) : Prop := ∃ byte ∈ opening, text.head? = some byte

theorem Opens.head?_ne {opening : Bytes} (h : Opens opening text) {byte : UInt8}
    (hbyte : byte ∉ opening) : text.head? ≠ some byte := by
  obtain ⟨first, hmem, hhead⟩ := h
  rw [hhead, ne_eq, Option.some.injEq]
  rintro rfl
  exact hbyte hmem

theorem Opens.isDigit_eq_false {opening : Bytes} (h : Opens opening text)
    (hopening : opening.any Bytes.isDigit = false) (byte : UInt8)
    (hhead : text.head? = some byte) : Bytes.isDigit byte = false := by
  obtain ⟨first, hmem, hfirst⟩ := h
  rw [hfirst, Option.some.injEq] at hhead
  rw [← hhead]
  exact Bool.eq_false_iff.mpr (List.any_eq_false.mp hopening first hmem)

variable (width : Width) (precision : Precision) (length : Length) (conversion : Conversion)

theorem opens_length (rest : Bytes) :
    Opens letters (length.bytes ++ conversion.byte :: rest) := by
  cases length with
  | plain =>
    have hmem : conversion.byte ∈ Conversion.all.map Conversion.byte :=
      List.mem_map_of_mem conversion.mem_all
    exact ⟨conversion.byte, List.mem_append_right _ hmem, rfl⟩
  | _ => exact ⟨_, by decide, rfl⟩

theorem opens_precision (rest : Bytes) :
    Opens (0x2E :: letters) (precision.bytes ++ (length.bytes ++ conversion.byte :: rest)) := by
  cases precision with
  | absent =>
    obtain ⟨byte, hmem, hhead⟩ := opens_length length conversion rest
    exact ⟨byte, List.mem_cons_of_mem _ hmem, hhead⟩
  | star => exact ⟨0x2E, List.mem_cons_self .., rfl⟩
  | digits run => exact ⟨0x2E, List.mem_cons_self .., rfl⟩

/-- The flags of a written directive end where its width starts. -/
theorem head?_width_ne (rest : Bytes) (flag : Flag) :
    (width.bytes ++ (precision.bytes ++ (length.bytes ++ conversion.byte :: rest))).head? ≠
      some flag.byte := by
  cases width with
  | star => cases flag <;> exact fun h ↦ nomatch h
  | absent =>
    have hflag : flag.byte ∉ 0x2E :: letters := by
      cases flag <;> decide
    exact (opens_precision precision length conversion rest).head?_ne hflag
  | digits first more hfirst =>
    have hbyte : ∀ digit : Digit, digit ≠ 0 → digit.byte ≠ flag.byte := by
      cases flag <;> decide
    exact fun h ↦ hbyte first hfirst (Option.some.inj h)

/-- A written directive is read whole, whatever follows it. -/
theorem parse?_append (spelling : Spelling) (rest : Bytes) :
    Directive.parse? (spelling.bytes ++ rest) = some (spelling.directive, rest) := by
  obtain ⟨flags, width, precision, length, conversion⟩ := spelling
  let lettered := length.bytes ++ conversion.byte :: rest
  let pointed := precision.bytes ++ lettered
  have hbytes : bytes ⟨flags, width, precision, length, conversion⟩ ++ rest =
      flags.map Flag.byte ++ (width.bytes ++ pointed) := by
    simp [bytes, pointed, lettered]
  have hlettered : Opens letters lettered := opens_length length conversion rest
  have hpointed : Opens (0x2E :: letters) pointed :=
    opens_precision precision length conversion rest
  have hflags := Flags.scan_append {} flags (head?_width_ne width precision length conversion rest)
  have hwidth : Extent.scanWidth (width.bytes ++ pointed) = (width.extent, pointed) :=
    Extent.scanWidth_append width (hpointed.head?_ne (by decide))
      (hpointed.isDigit_eq_false (by decide))
  have hprecision : Extent.scanPrecision pointed = (precision.extent, lettered) :=
    Extent.scanPrecision_append precision (hlettered.head?_ne (by decide))
      (hlettered.head?_ne (by decide)) (hlettered.isDigit_eq_false (by decide))
  rw [hbytes, Directive.parse?, hflags]
  dsimp only
  rw [hwidth]
  dsimp only
  rw [hprecision]
  dsimp only
  rw [Length.scan_append, Flags.settle_extend]
  dsimp only
  rw [Conversion.ofByte?_byte, Option.map_some]
  rfl

/-- What is read as a directive was written as one. -/
theorem exists_of_parse? {directive : Directive}
    (h : Directive.parse? text = some (directive, rest)) :
    ∃ spelling : Spelling, text = spelling.bytes ++ rest ∧ spelling.directive = directive := by
  obtain ⟨flags, htext, hflags, hopen⟩ := Flags.exists_scan {} text
  rw [Directive.parse?] at h
  generalize Flags.scan {} text = scanned at *
  obtain ⟨read, text₁⟩ := scanned
  obtain ⟨width, htext₁, hwidth⟩ := Extent.exists_scanWidth (hopen .zero)
  dsimp only at h htext hflags htext₁ hwidth
  generalize Extent.scanWidth text₁ = scanned at *
  obtain ⟨readWidth, text₂⟩ := scanned
  obtain ⟨precision, htext₂, hprecision⟩ := Extent.exists_scanPrecision text₂
  dsimp only at h htext₁ hwidth
  generalize Extent.scanPrecision text₂ = scanned at *
  obtain ⟨readPrecision, text₃⟩ := scanned
  have htext₃ := Length.bytes_scan text₃
  dsimp only at h htext₂ hprecision
  generalize Length.scan text₃ = scanned at *
  obtain ⟨length, text₄⟩ := scanned
  dsimp only at h htext₃
  cases text₄ with
  | nil => cases h
  | cons byte after =>
    obtain ⟨conversion, hconversion, hdirective⟩ := Option.map_eq_some_iff.mp h
    cases hdirective
    refine ⟨⟨flags, width, precision, length, conversion⟩, ?_, ?_⟩
    · rw [htext, htext₁, htext₂, htext₃, ← Conversion.byte_eq_of_ofByte? hconversion]
      simp [bytes]
    · rw [directive, ← hwidth, ← hprecision, ← Flags.settle_extend, ← hflags]

end Spelling

/-- Reading gives a directive and the rest of a text exactly where the text is a writing of the
directive and then the rest.  A text opens with at most one written directive, and reading fails
exactly where it opens with none. -/
theorem Directive.parse?_iff_spelled (text : Bytes) :
    (∀ directive rest, Directive.parse? text = some (directive, rest) ↔
      ∃ spelling : Spelling, text = spelling.bytes ++ rest ∧ spelling.directive = directive) ∧
    (∀ first second : Spelling, first.bytes <+: text → second.bytes <+: text →
      first.bytes = second.bytes) ∧
    (Directive.parse? text = none ↔ ∀ spelling : Spelling, ¬ spelling.bytes <+: text) := by
  refine ⟨fun directive rest ↦ ⟨Spelling.exists_of_parse?, ?_⟩, ?_, ?_⟩
  · rintro ⟨spelling, rfl, rfl⟩
    exact spelling.parse?_append rest
  · rintro first second ⟨rest, hfirst⟩ ⟨more, hsecond⟩
    have hparse := first.parse?_append rest
    rw [hfirst, ← hsecond, second.parse?_append, Option.some.injEq, Prod.mk.injEq] at hparse
    rw [← hsecond, hparse.2] at hfirst
    exact List.append_cancel_right hfirst
  · constructor
    · rintro hnone spelling ⟨rest, rfl⟩
      rw [spelling.parse?_append] at hnone
      cases hnone
    · intro hspelled
      cases hparse : Directive.parse? text with
      | none => rfl
      | some found =>
        obtain ⟨spelling, htext, -⟩ := Spelling.exists_of_parse? hparse
        exact absurd ⟨found.2, htext.symm⟩ (hspelled spelling)

-- A zero before the width is a flag, which the minus clears; a point alone is a precision of zero.
example : Directive.parse? (Bytes.ofAscii ['-', '0', '8', '.', 'l', 'l', 'd', '!']) =
    some (⟨{ leftJustify := true }, .fixed 8, .fixed 0, .ll, .d⟩, Bytes.ofAscii ['!']) := by
  decide

end StubLibc.Format
