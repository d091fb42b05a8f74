import StubLibc.Proofs.Format.Extents
import StubLibc.Proofs.Numeral.Digits

/-!
# Integers by the standard

An integer directive shows the value that its argument has in the C type of its length modifier: a
sign, a base mark, and the shortest digits, with zeros before them up to the precision.  The text is
filled up to the width on the right under the flag `-`, with zeros before the digits under the flag
`0` where no precision stands against it, and on the left otherwise.  Whatever the fields are, the
digits read back as the value without its sign.
-/

namespace StubLibc

namespace Format

/-- The radix of a conversion that shows an integer. -/
def Conversion.radix? : Conversion → Option Radix
  | d | i | u => some .decimal
  | x => some .hexLower
  | X => some .hexUpper
  | _ => none

/-- A conversion that shows the sign of its argument. -/
def Conversion.isSigned : Conversion → Bool
  | d | i => true
  | _ => false

namespace Standard

/-- The value of a word in the C type that a directive names. -/
def value (directive : Directive) (word : UInt64) : Int :=
  if directive.conversion.isSigned then signedResidue directive.length.bits word
  else (word.toNat % 2 ^ directive.length.bits : Nat)

def sign (directive : Directive) (value : Int) : Bytes :=
  if value < 0 then Bytes.ofAscii ['-']
  else if directive.conversion.isSigned && directive.flags.forceSign then Bytes.ofAscii ['+']
  else if directive.conversion.isSigned && directive.flags.spaceSign then Bytes.ofAscii [' ']
  else []

def mark (directive : Directive) (value : Int) : Bytes :=
  match directive.conversion with
  | .x => if directive.flags.altForm ∧ value ≠ 0 then Bytes.ofAscii ['0', 'x'] else []
  | .X => if directive.flags.altForm ∧ value ≠ 0 then Bytes.ofAscii ['0', 'X'] else []
  | _ => []

/-- The digits of a value.  Zero has none under a precision of zero. -/
def digits (radix : Radix) (precision : Option Nat) (value : Int) : Bytes :=
  if value = 0 ∧ precision = some 0 then [] else Numeral.shortest radix value.natAbs

/-- A number with its fill. -/
def layout (flags : Flags) (width : Nat) (precision : Option Nat) (sign mark digits : Bytes) :
    Bytes :=
  let number := sign ++ mark ++ digits.leftpad (precision.getD 0) Layout.zero
  if flags.leftJustify then number.rightpad width Layout.space
  else if flags.zeroPad ∧ precision = none then
    sign ++ mark ++ digits.leftpad (width - (sign ++ mark).length) Layout.zero
  else number.leftpad width Layout.space

@[simp]
theorem forceSign_flags (written : Flags) (width : Option Int) :
    (flags written width).forceSign = written.forceSign := by
  unfold flags
  split <;> rfl

@[simp]
theorem spaceSign_flags (written : Flags) (width : Option Int) :
    (flags written width).spaceSign = written.spaceSign := by
  unfold flags
  split <;> rfl

@[simp]
theorem altForm_flags (written : Flags) (width : Option Int) :
    (flags written width).altForm = written.altForm := by
  unfold flags
  split <;> rfl

theorem read_digits (radix : Radix) (precision : Option Nat) (value : Int) :
    radix.read (digits radix precision value) = value.natAbs := by
  unfold digits
  split
  · next h =>
    rw [h.1]
    rfl
  · exact Numeral.read_shortest radix value.natAbs

theorem mark_of_isSigned {directive : Directive} (h : directive.conversion.isSigned = true)
    (value : Int) : mark directive value = [] := by
  unfold mark
  split
  · next hconversion =>
    rw [hconversion] at h
    cases h
  · next hconversion =>
    rw [hconversion] at h
    cases h
  · rfl

theorem sign_eq_minus_iff (directive : Directive) (value : Int) :
    sign directive value = Bytes.ofAscii ['-'] ↔ value < 0 := by
  unfold sign
  constructor
  · intro h
    by_contra hnegative
    rw [if_neg hnegative] at h
    revert h
    split
    · decide
    · split <;> decide
  · exact fun h ↦ if_pos h

variable (flags : Flags) (width : Nat) (precision : Option Nat) (sign mark digits : Bytes)

/-- The text of a number is as long as its width, or as its parts where these are longer. -/
theorem length_layout :
    (layout flags width precision sign mark digits).length =
      max width (sign.length + mark.length + max (precision.getD 0) digits.length) := by
  unfold layout
  dsimp only
  split
  · simp [List.rightpad]
    omega
  · split
    · next h =>
      simp [h.2]
      omega
    · simp
      omega

/-- Around the digits there are zeros before them, the sign and the mark before those, and spaces
outside. -/
theorem exists_layout_eq :
    ∃ left zeros right, layout flags width precision sign mark digits =
      List.replicate left Layout.space ++ sign ++ mark ++
        (List.replicate zeros Layout.zero ++ digits) ++ List.replicate right Layout.space := by
  unfold layout
  dsimp only
  split
  · exact ⟨0, _, _, by simp [List.rightpad, List.leftpad]; rfl⟩
  · split
    · exact ⟨0, _, 0, by simp [List.leftpad]; rfl⟩
    · exact ⟨_, _, 0, by simp [List.leftpad]; rfl⟩

end Standard

/-- A laid-out number is the standard's. -/
theorem Layout.number_eq_layout (layout : Layout) (sign mark : Bytes) (radix : Radix)
    (value : Int) :
    layout.number sign mark (Bytes.ofAscii (Numeral.digits radix value.natAbs)) =
      Standard.layout layout.flags layout.width layout.precision sign mark
        (Standard.digits radix layout.precision value) := by
  have hdigits : layout.shownDigits (Numeral.shortest radix value.natAbs) =
      Standard.digits radix layout.precision value := by
    simp only [shownDigits, Standard.digits, Numeral.shortest_eq_zero_iff, Int.natAbs_eq_zero,
      and_comm]
  rw [number, Numeral.ofAscii_digits, hdigits]
  generalize Standard.digits radix layout.precision value = digits
  -- The zeros of the precision make the digits a field; the fill is what it leaves of the width.
  let field := digits.leftpad (layout.precision.getD 0) zero
  have hfield : List.replicate (max (layout.precision.getD 0) digits.length - digits.length) zero ++
      digits = field := by
    have hzeros : max (layout.precision.getD 0) digits.length - digits.length =
        layout.precision.getD 0 - digits.length := by
      omega
    rw [hzeros]
    rfl
  have hfill : layout.width -
      (sign.length + mark.length + max (layout.precision.getD 0) digits.length) =
        layout.width - (sign ++ mark ++ field).length := by
    rw [List.length_append, List.length_append, List.length_leftpad]
  rw [hfield, hfill]
  unfold Standard.layout
  split
  · rfl
  · split
    · next h =>
      have hplain : field = digits := by simp [field, h.2, List.leftpad]
      simp [hplain, List.leftpad, Nat.sub_sub, Nat.add_assoc]
    · simp [List.leftpad, field]

/-! ## Directives -/

namespace Directive

variable {directive : Directive} {radix : Radix} {widthArgs precisionArgs : List Arg}
  {width precision : Option Int} {arg : Arg} {word : UInt64}

/-- The text that the standard has for an integer directive. -/
def standardText (directive : Directive) (radix : Radix) (width precision : Option Int)
    (word : UInt64) : Bytes :=
  let value := Standard.value directive word
  Standard.layout (Standard.flags directive.flags width) (Standard.width width)
    (Standard.precision precision) (Standard.sign directive value) (Standard.mark directive value)
    (Standard.digits radix (Standard.precision precision) value)

theorem signedField_apply (hword : arg.asUint? = some word) (directive : Directive)
    (layout : Layout) (position : Nat) (rest : List Arg) :
    directive.signedField layout ⟨position, arg :: rest⟩ =
      let value := directive.length.narrowSigned word.toInt64
      (.ok (.number (sign layout.flags value) []
        (Bytes.ofAscii (Numeral.digits .decimal value.natAbs))), ⟨position + 1, rest⟩) := by
  rw [signedField, Fetch.run_bind, Fetch.arg, Cursor.nextInt_cons hword]
  rfl

theorem unsignedField_apply (hword : arg.asUint? = some word) (directive : Directive)
    (layout : Layout) (radix : Radix) (mark : Bytes) (position : Nat) (rest : List Arg) :
    directive.unsignedField layout radix mark ⟨position, arg :: rest⟩ =
      let value := directive.length.narrowUnsigned word
      (.ok (.number [] (if layout.flags.altForm ∧ value ≠ 0 then mark else [])
        (Bytes.ofAscii (Numeral.digits radix value))), ⟨position + 1, rest⟩) := by
  rw [unsignedField, Fetch.run_bind, Fetch.arg, Cursor.nextUint_cons hword]
  rfl

theorem exists_signedField (hword : arg.asUint? = some word)
    (hsigned : directive.conversion.isSigned = true) (width precision : Option Int)
    (position : Nat) (rest : List Arg) :
    let layout : Layout :=
      ⟨Standard.flags directive.flags width, Standard.width width, Standard.precision precision⟩
    ∃ field, directive.signedField layout ⟨position, arg :: rest⟩ =
        (.ok field, ⟨position + 1, rest⟩) ∧
      layout.bytes field = directive.standardText .decimal width precision word := by
  have hvalue : directive.length.narrowSigned word.toInt64 = Standard.value directive word := by
    rw [Length.narrowSigned_toInt64, Standard.value, if_pos hsigned]
  have hsign (value : Int) :
      sign (Standard.flags directive.flags width) value = Standard.sign directive value := by
    simp [sign, Standard.sign, hsigned]
  refine ⟨_, signedField_apply hword directive _ position rest, ?_⟩
  rw [Layout.bytes, hvalue, hsign, Layout.number_eq_layout, standardText,
    Standard.mark_of_isSigned hsigned]

theorem exists_unsignedField (hword : arg.asUint? = some word)
    (hsigned : directive.conversion.isSigned = false) {mark : Bytes}
    (hmark : ∀ value, Standard.mark directive value =
      if directive.flags.altForm ∧ value ≠ 0 then mark else [])
    (radix : Radix) (width precision : Option Int) (position : Nat) (rest : List Arg) :
    let layout : Layout :=
      ⟨Standard.flags directive.flags width, Standard.width width, Standard.precision precision⟩
    ∃ field, directive.unsignedField layout radix mark ⟨position, arg :: rest⟩ =
        (.ok field, ⟨position + 1, rest⟩) ∧
      layout.bytes field = directive.standardText radix width precision word := by
  intro layout
  have hvalue : Standard.value directive word = directive.length.narrowUnsigned word := by
    rw [Standard.value, hsigned, Length.narrowUnsigned_eq]
    rfl
  have hsign (value : Nat) : Standard.sign directive value = [] := by
    simp [Standard.sign, hsigned]
  have hnumber (mark : Bytes) (value : Nat) := layout.number_eq_layout [] mark radix value
  dsimp only [layout] at hnumber
  refine ⟨_, unsignedField_apply hword directive layout radix mark position rest, ?_⟩
  rw [Layout.bytes, standardText, hvalue, hsign, hmark, ← hnumber]
  simp only [layout, Standard.altForm_flags, Int.natCast_eq_zero, ne_eq]
  rfl

/-- The field of an integer directive is the standard's text. -/
theorem exists_field_of_radix? (hradix : directive.conversion.radix? = some radix)
    (hword : arg.asUint? = some word) (width precision : Option Int) (position : Nat)
    (rest : List Arg) :
    let layout : Layout :=
      ⟨Standard.flags directive.flags width, Standard.width width, Standard.precision precision⟩
    ∃ action field, directive.field? layout = some action ∧
      action ⟨position, arg :: rest⟩ = (.ok field, ⟨position + 1, rest⟩) ∧
      layout.bytes field = directive.standardText radix width precision word := by
  intro layout
  rw [field?]
  cases hconversion : directive.conversion <;> rw [hconversion] at hradix <;> cases hradix
  case d | i =>
    exact ⟨_, (exists_signedField hword (by rw [hconversion]; rfl) width precision _ rest).imp
      fun _ h ↦ ⟨rfl, h⟩⟩
  case u =>
    exact ⟨_, (exists_unsignedField hword (by rw [hconversion]; rfl)
      (fun _ ↦ by rw [Standard.mark, hconversion, ite_self]) _ width precision _ rest).imp
      fun _ h ↦ ⟨rfl, h⟩⟩
  case x | X =>
    exact ⟨_, (exists_unsignedField hword (by rw [hconversion]; rfl)
      (fun _ ↦ by rw [Standard.mark, hconversion]) _ width precision _ rest).imp
      fun _ h ↦ ⟨rfl, h⟩⟩

/-- An integer directive whose fields are at most the largest `int` shows the standard's text. -/
theorem render_apply_of_radix? (hradix : directive.conversion.radix? = some radix)
    (hwidth : directive.width.Takes widthArgs width)
    (hprecision : directive.precision.Takes precisionArgs precision)
    (hword : arg.asUint? = some word) (hwidthMax : Standard.width width ≤ maxField)
    (hprecisionMax : ∀ value ∈ Standard.precision precision, value ≤ maxField) (position : Nat)
    (rest : List Arg) :
    directive.render ⟨position, widthArgs ++ (precisionArgs ++ arg :: rest)⟩ =
      (.ok (.shown (directive.standardText radix width precision word)),
        ⟨position + widthArgs.length + precisionArgs.length + 1, rest⟩) := by
  have hlayout := Layout.resolve_of_takes hwidth hprecision hwidthMax hprecisionMax position
    (arg :: rest)
  obtain ⟨action, field, haction, hfield, hbytes⟩ :=
    exists_field_of_radix? hradix hword width precision _ rest
  rw [render, Fetch.run_bind, hlayout]
  dsimp only
  rw [renderOwn_of_field? haction hfield, hbytes]

end Directive

variable {directive : Directive} {radix : Radix} {widthArgs precisionArgs : List Arg}
  {width precision : Option Int} {arg : Arg} {word : UInt64}

/-- For an integer directive, its fields at most the largest `int`, rendering appends the standard's
text of its value in the C type of its length.  The text is as long as its width or its parts, it
has a minus exactly for a negative value, and its digits read back as the value without sign. -/
theorem render_integer (hradix : directive.conversion.radix? = some radix)
    (hwidth : directive.width.Takes widthArgs width)
    (hprecision : directive.precision.Takes precisionArgs precision)
    (hword : arg.asUint? = some word) (hwidthMax : Standard.width width ≤ maxField)
    (hprecisionMax : ∀ value ∈ Standard.precision precision, value ≤ maxField) (position : Nat)
    (rest : List Arg) (segments : List Segment) :
    let value := Standard.value directive word
    let sign := Standard.sign directive value
    let mark := Standard.mark directive value
    let digits := Standard.digits radix (Standard.precision precision) value
    let text := Standard.layout (Standard.flags directive.flags width) (Standard.width width)
      (Standard.precision precision) sign mark digits
    render (.directive directive :: segments)
          ⟨position, widthArgs ++ (precisionArgs ++ arg :: rest)⟩ =
        (render segments
          ⟨position + widthArgs.length + precisionArgs.length + 1, rest⟩).prepend (.shown text) ∧
      text.length = max (Standard.width width)
        (sign.length + mark.length +
          max ((Standard.precision precision).getD 0) digits.length) ∧
      (sign = Bytes.ofAscii ['-'] ↔ value < 0) ∧
      radix.read digits = value.natAbs ∧
      ∃ left zeros right,
        text = List.replicate left Layout.space ++ sign ++ mark ++
          (List.replicate zeros Layout.zero ++ digits) ++ List.replicate right Layout.space ∧
        radix.read (List.replicate zeros Layout.zero ++ digits) = value.natAbs := by
  intro value sign mark digits text
  have hshown := Directive.render_apply_of_radix? hradix hwidth hprecision hword hwidthMax
    hprecisionMax position rest
  have hdigits : radix.read digits = value.natAbs := Standard.read_digits radix _ value
  obtain ⟨left, zeros, right, htext⟩ :=
    Standard.exists_layout_eq (Standard.flags directive.flags width) (Standard.width width)
      (Standard.precision precision) sign mark digits
  refine ⟨?_, Standard.length_layout .., Standard.sign_eq_minus_iff directive value, hdigits,
    left, zeros, right, htext, ?_⟩
  · rw [render, Segment.render, hshown]
    rfl
  · rw [Radix.read_replicate_append, hdigits]

/-- A negative `*` width, a `*` precision, and a value that does not fit its type. -/
theorem render_integer_stars :
    let directive : Directive := ⟨{ forceSign := true, zeroPad := true }, .star, .star, .hh, .d⟩
    let rendering := render [.directive directive] ⟨0, [.int (-9), .uint 3, .int 300]⟩
    rendering.written = Bytes.ofAscii ['+', '0', '4', '4', ' ', ' ', ' ', ' ', ' '] ∧
      rendering.cursor = ⟨3, []⟩ := by
  intro directive rendering
  have hminus : signedResidue 32 (-9 : Int64).toUInt64 = -9 := by decide +kernel
  have hthree : signedResidue 32 3 = 3 := by decide +kernel
  have hwidth : directive.width.Takes [.int (-9)] (some (-9)) := hminus ▸ .star rfl
  have hprecision : directive.precision.Takes [.uint 3] (some 3) := hthree ▸ .star rfl
  have hword : (Arg.int 300).asUint? = some 300 := rfl
  have hradix : directive.conversion.radix? = some .decimal := rfl
  have hrendering := (render_integer hradix hwidth hprecision hword (by decide) (by decide) 0 []
    []).1
  have hmodel : rendering = _ := hrendering
  rw [hmodel]
  exact ⟨by decide +kernel, rfl⟩

end Format

end StubLibc
