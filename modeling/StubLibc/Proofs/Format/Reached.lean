import StubLibc.Proofs.Format.Emission
import StubLibc.Proofs.Format.Extents
import StubLibc.Proofs.Numeral.Digits

/-!
# The fields that a rendering reaches

A directive that is printed lays out one field, a text or a number.  `Reaches` says which fields a
rendering lays out, and by which layouts; how others would be written makes no difference.  The
layouts are checked ones, and the parts of a number are no longer than those of a word.
-/

namespace StubLibc.Format

open Emit

/-- The parts of a number are those of a word. -/
def Field.IsShort : Field → Prop
  | text _ => True
  | number sign mark digits => sign.length ≤ 1 ∧ mark.length ≤ 2 ∧ digits.length ≤ 20

/-- Rendering the segments from the cursor asks the layout to write the field. -/
inductive Reaches (layout : Layout) (field : Field) : List Segment → Cursor → Prop
  | here {directive : Directive} {rest : List Segment} {cursor between after : Cursor}
    {action : Fetch Field} (hlayout : Layout.resolve directive cursor = (.ok layout, between))
    (haction : directive.field? layout = some action)
    (hfield : action between = (.ok field, after)) :
    Reaches layout field (.directive directive :: rest) cursor
  | later {segment : Segment} {rest : List Segment} {cursor after : Cursor} {piece : Piece}
    (hsegment : segment.render cursor = (.ok piece, after)) (h : Reaches layout field rest after) :
    Reaches layout field (segment :: rest) cursor

/-! ## Small layouts -/

namespace Layout

/-- No field is above the largest `int`. -/
structure IsSmall (layout : Layout) : Prop where
  width_le : layout.width ≤ maxField
  precision_le : ∀ precision ∈ layout.precision, precision ≤ maxField

/-- Only checked fields make a layout. -/
theorem isSmall_of_resolve {directive : Directive} {layout : Layout} {cursor after : Cursor}
    (h : resolve directive cursor = (.ok layout, after)) : layout.IsSmall := by
  rcases hwidth : fetchWidth directive.flags directive.width cursor with
    ⟨error | ⟨flags, width⟩, between⟩
  · rw [resolve, Fetch.run_bind, hwidth] at h
    cases h
  rcases hprecision : fetchPrecision directive.precision between with ⟨error | precision, stop⟩
  · rw [resolve, Fetch.run_bind, hwidth] at h
    dsimp only at h
    rw [Fetch.run_bind, hprecision] at h
    cases h
  · rw [resolve_of_fetches hwidth hprecision, Prod.mk.injEq, checked_eq_ok_iff] at h
    obtain ⟨⟨hwidthMax, hprecisionMax, rfl⟩, -⟩ := h
    exact ⟨hwidthMax, hprecisionMax⟩

end Layout

/-! ## Reached fields -/

namespace Directive

variable {directive : Directive} {layout : Layout} {action : Fetch Field}

theorem length_sign_le (flags : Flags) (value : Int) : (sign flags value).length ≤ 1 := by
  unfold sign
  split
  · decide
  · split
    · decide
    · split <;> decide

theorem yields_isShort_signedField (directive : Directive) (layout : Layout) :
    (directive.signedField layout).Yields Field.IsShort := by
  refine Fetch.yields_bind fun value ↦ Fetch.yields_pure ⟨length_sign_le _ _, by decide, ?_⟩
  rw [Bytes.length_ofAscii]
  exact Numeral.length_digits_of_word _ (directive.length.natAbs_narrowSigned_lt value)

theorem yields_isShort_unsignedField (directive : Directive) (layout : Layout) (radix : Radix)
    {mark : Bytes} (hmark : mark.length ≤ 2) :
    (directive.unsignedField layout radix mark).Yields Field.IsShort := by
  refine Fetch.yields_bind fun word ↦ Fetch.yields_pure ⟨by decide, ?_, ?_⟩
  · split
    · exact hmark
    · exact Nat.zero_le _
  · rw [Bytes.length_ofAscii]
    exact Numeral.length_digits_of_word _ (directive.length.narrowUnsigned_lt word)

/-- The numbers that directives show are those of a word. -/
theorem yields_isShort_of_field? (h : directive.field? layout = some action) :
    action.Yields Field.IsShort := by
  rw [field?] at h
  cases hconversion : directive.conversion <;> rw [hconversion] at h <;> cases h
  case d | i => exact directive.yields_isShort_signedField layout
  case u | x | X => exact directive.yields_isShort_unsignedField layout _ (by decide)
  case c | s | p => exact Fetch.yields_bind fun _ ↦ Fetch.yields_pure trivial

end Directive

variable {segments : List Segment} {layout : Layout} {field : Field} {cursor : Cursor}

theorem Reaches.isSmall (h : Reaches layout field segments cursor) : layout.IsSmall := by
  induction h with
  | here hlayout => exact Layout.isSmall_of_resolve hlayout
  | later _ _ ih => exact ih

theorem Reaches.isShort (h : Reaches layout field segments cursor) : field.IsShort := by
  induction h with
  | here _ haction hfield => exact Directive.yields_isShort_of_field? haction _ _ _ hfield
  | later _ _ ih => exact ih

/-- How other fields would be written plays no part in writing a segment. -/
theorem Segment.emitBy_eq_of_reaches {write : Layout → Field → Emit Unit} {segment : Segment}
    {rest : List Segment} {progress : Progress}
    (h : ∀ layout field, Reaches layout field (segment :: rest) progress.cursor →
      write layout field = layout.emitField field) :
    segment.emitBy write progress = segment.emit progress := by
  cases segment with
  | literal bytes => rfl
  | percent => rfl
  | directive spec =>
    rw [emit, emitBy, emitBy, Directive.emitBy, Directive.emitBy, run_bind, run_bind, fetch]
    rcases hlayout : Layout.resolve spec progress.cursor with ⟨error | layout, between⟩
    · rfl
    dsimp only
    cases haction : spec.field? layout with
    | none => rfl
    | some action =>
      dsimp only
      rw [run_bind, run_bind, fetch]
      rcases hfield : action between with ⟨error | field, after⟩
      · rfl
      · dsimp only
        rw [h layout field (.here hlayout haction hfield)]

/-- A rendering writes no field but those that it reaches. -/
theorem emitBy_eq_of_reaches {write : Layout → Field → Emit Unit} {progress : Progress}
    (h : ∀ layout field, Reaches layout field segments progress.cursor →
      write layout field = layout.emitField field) :
    emitBy write segments progress = emit segments progress := by
  induction segments generalizing progress with
  | nil => rfl
  | cons segment rest ih =>
    -- The rest starts where rendering the first segment leaves the cursor, whatever the buffer.
    rw [emitBy, emit_cons, run_bind, run_bind, Segment.emitBy_eq_of_reaches h, segment.writes_emit]
    rcases hsegment : segment.render progress.cursor with ⟨error | piece, after⟩
    · rfl
    · dsimp only
      have hrest : ∀ layout field, Reaches layout field rest after →
          write layout field = layout.emitField field :=
        fun layout field hreach ↦ h layout field (.later hsegment hreach)
      rw [run_bind, run_bind, ih hrest]

end StubLibc.Format
