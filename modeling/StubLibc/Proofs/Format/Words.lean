import StubLibc.Proofs.Format.Grammar
import StubLibc.Proofs.Format.Reached

/-!
# Fields in machine words

The counts of a field are sums and differences of its width, its precision and the lengths of its
parts, done in machine words.  Counted by operations that fail where a sum is no word or a
difference is negative, the writing of a field may fail.  Of the fields that a rendering reaches
none lets one of them fail but the fill, which is less than zero where the body is longer than the
width, and is held at zero there.  That rests on the check of widths and precisions, which refuses
exactly the numbers above the largest `int`, however many digits they are written with.
-/

namespace StubLibc

namespace Word

/-- The sum of two words, where it is a word. -/
def sum? (first second : Nat) : Option Nat :=
  if first + second ≤ Numeral.wordMax then some (first + second) else none

/-- The difference of two words, where it is not negative. -/
def difference? (first second : Nat) : Option Nat :=
  if second ≤ first then some (first - second) else none

/-- The difference of two words, held at zero. -/
def heldDifference? (first second : Nat) : Option Nat :=
  some ((difference? first second).getD 0)

/-- Counts in words, the fill by `subtract`. -/
def counting (subtract : Nat → Nat → Option Nat) : Format.Counting Option where
  sum := sum?
  difference := difference?
  fill := subtract

variable {first second : Nat}

theorem sum?_of_le (h : first + second ≤ Numeral.wordMax) :
    sum? first second = some (first + second) := if_pos h

theorem difference?_of_le (h : second ≤ first) :
    difference? first second = some (first - second) := if_pos h

theorem difference?_of_lt (h : first < second) : difference? first second = none :=
  if_neg (Nat.not_le.mpr h)

theorem heldDifference?_eq (first second : Nat) :
    heldDifference? first second = some (first - second) := by
  rw [heldDifference?]
  rcases Nat.lt_or_ge first second with hlt | hge
  · rw [difference?_of_lt hlt, Option.getD_none, Nat.sub_eq_zero_of_le (Nat.le_of_lt hlt)]
  · rw [difference?_of_le hge, Option.getD_some]

end Word

namespace Format

open Emit

/-! ## Operations on words -/

namespace Layout

/-- The length of a field without its fill. -/
def bodyLength (layout : Layout) : Field → Nat
  | .text body => body.length
  | .number sign mark digits =>
    sign.length + mark.length +
      max (layout.precision.getD 0) (layout.shownDigits digits).length

/-- Writes a field with operations on words, the fill by `subtract`. -/
def emitField? (layout : Layout) (subtract : Nat → Nat → Option Nat) (field : Field) :
    Option (Emit Unit) :=
  layout.writer (Word.counting subtract) field

variable {layout : Layout} {field : Field} {sign mark digits : Bytes}

/-- The body of a number is little longer than the largest field. -/
theorem bodyLength_number_le (hsmall : layout.IsSmall)
    (hshort : (Field.number sign mark digits).IsShort) :
    layout.bodyLength (.number sign mark digits) ≤ maxField + 23 := by
  obtain ⟨hsign, hmark, hdigits⟩ := hshort
  have hshown : (layout.shownDigits digits).length ≤ 20 := by
    unfold shownDigits
    split
    · exact Nat.zero_le _
    · exact hdigits
  have hprecision : layout.precision.getD 0 ≤ maxField := by
    cases h : layout.precision with
    | none => exact Nat.zero_le _
    | some precision => exact hsmall.precision_le precision h
  rw [bodyLength]
  omega

/-- In a number only the fill can fail, and with the fill that is written nothing does. -/
theorem exists_emitField?_number_eq_bind (hsmall : layout.IsSmall)
    (hshort : (Field.number sign mark digits).IsShort) :
    let body := layout.bodyLength (.number sign mark digits)
    ∃ write? : Nat → Option (Emit Unit),
      (∀ subtract, layout.emitField? subtract (.number sign mark digits) =
        (subtract layout.width body).bind write?) ∧
      write? (layout.width - body) = some (layout.emitField (.number sign mark digits)) := by
  have hbody := bodyLength_number_le hsmall hshort
  have hwidth := hsmall.width_le
  have hword : maxField + (maxField + 23) ≤ Numeral.wordMax := by decide
  simp only [emitField?, emitField, writer, numberWriter, Word.counting, Counting.plain, Id.run,
    bind, pure, bodyLength] at hbody ⊢
  generalize layout.shownDigits digits = shown at hbody ⊢
  have hplaces : shown.length ≤ max (layout.precision.getD 0) shown.length := Nat.le_max_right _ _
  generalize max (layout.precision.getD 0) shown.length = places at hbody hplaces ⊢
  have hmarked : Word.sum? sign.length mark.length = some (sign.length + mark.length) :=
    Word.sum?_of_le (by omega)
  have hsum : Word.sum? (sign.length + mark.length) places =
      some (sign.length + mark.length + places) :=
    Word.sum?_of_le (by omega)
  have hzeros : Word.difference? places shown.length = some (places - shown.length) :=
    Word.difference?_of_le hplaces
  simp only [hmarked, hsum, hzeros, Option.bind_some]
  refine ⟨_, fun subtract ↦ rfl, ?_⟩
  -- What comes behind the fill adds to it: the zeros of a padded number take its place.
  generalize hfill : layout.width - (sign.length + mark.length + places) = fill
  have htotal : Word.sum? fill places = some (fill + places) := Word.sum?_of_le (by omega)
  have hpadded : Word.difference? (fill + places) shown.length =
      some (fill + places - shown.length) :=
    Word.difference?_of_le (Nat.le_trans hplaces (Nat.le_add_left _ _))
  simp only [htotal, hpadded, Option.bind_some]
  split
  · rfl
  · split <;> rfl

theorem exists_emitField?_eq_bind (hsmall : layout.IsSmall) (hshort : field.IsShort) :
    ∃ write? : Nat → Option (Emit Unit),
      (∀ subtract, layout.emitField? subtract field =
        (subtract layout.width (layout.bodyLength field)).bind write?) ∧
      write? (layout.width - layout.bodyLength field) = some (layout.emitField field) := by
  cases field with
  | number sign mark digits => exact exists_emitField?_number_eq_bind hsmall hshort
  | text body =>
    refine ⟨_, fun subtract ↦ rfl, ?_⟩
    simp only [emitField, writer, textWriter, Counting.plain, bodyLength]
    split <;> rfl

/-- With a fill that is held at zero no operation fails. -/
theorem emitField?_heldDifference? (hsmall : layout.IsSmall) (hshort : field.IsShort) :
    layout.emitField? Word.heldDifference? field = some (layout.emitField field) := by
  obtain ⟨write?, hbind, hwrite⟩ := exists_emitField?_eq_bind hsmall hshort
  rw [hbind, Word.heldDifference?_eq, Option.bind_some, hwrite]

/-- With a fill that is not held, that alone can fail: where the body is longer than the width. -/
theorem emitField?_difference? (hsmall : layout.IsSmall) (hshort : field.IsShort) :
    layout.emitField? Word.difference? field =
      if layout.width < layout.bodyLength field then none else some (layout.emitField field) := by
  obtain ⟨write?, hbind, hwrite⟩ := exists_emitField?_eq_bind hsmall hshort
  rw [hbind]
  by_cases hlong : layout.width < layout.bodyLength field
  · rw [if_pos hlong, Word.difference?_of_lt hlong, Option.bind_none]
  · rw [if_neg hlong, Word.difference?_of_le (Nat.not_lt.mp hlong), Option.bind_some, hwrite]

/-- The check of a written field refuses it where its number is above the largest `int`. -/
theorem checkField_readSaturating (run : List Spelling.Digit) :
    checkField (Numeral.readSaturating (run.map Spelling.Digit.byte)) =
      if maxField < Spelling.Digit.value run then
        .error (.fieldOverflow (Numeral.readSaturating (run.map Spelling.Digit.byte)))
      else .ok (Spelling.Digit.value run) := by
  have hmax : maxField < Numeral.wordMax := by decide
  rw [Spelling.Digit.readSaturating_map_byte, checkField]
  by_cases h : maxField < Spelling.Digit.value run
  · have hread : maxField < min Numeral.wordMax (Spelling.Digit.value run) := lt_min hmax h
    rw [if_pos h, if_pos hread]
  · have hread : min Numeral.wordMax (Spelling.Digit.value run) = Spelling.Digit.value run := by
      omega
    rw [if_neg h, hread, if_neg h]

end Layout

/-- A written field is read as its number, held at the largest word, and refused where the number is
above the largest `int`.  So the layouts that a rendering reaches are small, and the counts of their
fields come out as they are written without a sum that is no word or a difference that is negative,
but for the fill: it is the width without the body where the body is no longer than the width, and
is held at zero otherwise.  A rendering writes no other fields. -/
theorem fields_fit_words :
    (∀ run : List Spelling.Digit,
      let read := Numeral.readSaturating (run.map Spelling.Digit.byte)
      read = min (2 ^ 64 - 1) (Spelling.Digit.value run) ∧
        Layout.checkField read =
          if maxField < Spelling.Digit.value run then .error (.fieldOverflow read)
          else .ok (Spelling.Digit.value run)) ∧
    ∀ (segments : List Segment) (cursor : Cursor),
      (∀ layout field, Reaches layout field segments cursor →
        layout.width ≤ maxField ∧ (∀ precision ∈ layout.precision, precision ≤ maxField) ∧
          layout.emitField? Word.heldDifference? field = some (layout.emitField field) ∧
          layout.emitField? Word.difference? field =
            if layout.width < layout.bodyLength field then none
            else some (layout.emitField field)) ∧
      ∀ write, (∀ layout field, Reaches layout field segments cursor →
          write layout field = layout.emitField field) →
        ∀ buffer, emitBy write segments ⟨cursor, buffer⟩ = emit segments ⟨cursor, buffer⟩ := by
  constructor
  · intro run
    exact ⟨Spelling.Digit.readSaturating_map_byte run, Layout.checkField_readSaturating run⟩
  · intro segments cursor
    refine ⟨fun layout field h ↦ ?_, fun write h buffer ↦ emitBy_eq_of_reaches h⟩
    have hsmall := h.isSmall
    have hshort := h.isShort
    exact ⟨hsmall.width_le, hsmall.precision_le, Layout.emitField?_heldDifference? hsmall hshort,
      Layout.emitField?_difference? hsmall hshort⟩

/-- A negative number behind zeros, in the widest field there is. -/
theorem fields_fit_words_widest :
    let segments := Segment.ofFormat (Bytes.ofAscii ['%', '0', '*', 'l', 'd'])
    let cursor := Cursor.ofArgs [.int 0x7FFFFFFF, .int (-9223372036854775808)]
    let layout : Layout := ⟨{ zeroPad := true }, maxField, none⟩
    let field := Field.number (Bytes.ofAscii ['-']) []
      (Bytes.ofAscii (Numeral.digits .decimal 9223372036854775808))
    Reaches layout field segments cursor ∧
      layout.emitField? Word.difference? field = some (layout.emitField field) := by
  intro segments cursor layout field
  have hsegments : Segment.ofFormat (Bytes.ofAscii ['%', '0', '*', 'l', 'd']) =
      [.directive ⟨{ zeroPad := true }, .star, .absent, .l, .d⟩] := by
    cbv
  have hreaches : Reaches layout field segments cursor := by
    dsimp only [segments]
    rw [hsegments]
    exact .here rfl rfl rfl
  have hexact := ((fields_fit_words.2 segments cursor).1 layout field hreaches).2.2.2
  have hdigits : (Numeral.digits .decimal 9223372036854775808).length ≤ 20 :=
    Numeral.length_digits_of_word _ (by decide)
  have hbody : layout.bodyLength field ≤ layout.width := by
    simp [layout, field, Layout.bodyLength, Layout.shownDigits, maxField]
    omega
  rw [if_neg (Nat.not_lt.mpr hbody)] at hexact
  exact ⟨hreaches, hexact⟩

/-- Without a width the digit of `%d` is longer than its field, and the fill is less than zero. -/
theorem fill_not_difference :
    ¬ ∀ layout field,
      Reaches layout field (Segment.ofFormat (Bytes.ofAscii ['%', 'd'])) (Cursor.ofArgs [.int 5]) →
        layout.emitField? Word.difference? field = some (layout.emitField field) := by
  intro h
  have hsegments : Segment.ofFormat (Bytes.ofAscii ['%', 'd']) =
      [.directive ⟨{}, .absent, .absent, .plain, .d⟩] := by
    cbv
  have hdigits : Numeral.digits .decimal 5 = ['5'] := Numeral.digits_of_lt (by decide)
  have hreaches : Reaches ⟨{}, 0, none⟩
      (.number [] [] (Bytes.ofAscii (Numeral.digits .decimal 5)))
      (Segment.ofFormat (Bytes.ofAscii ['%', 'd'])) (Cursor.ofArgs [.int 5]) := by
    rw [hsegments]
    exact .here rfl rfl rfl
  have hfill := h _ _ hreaches
  rw [hdigits] at hfill
  cases hfill

end Format

end StubLibc
