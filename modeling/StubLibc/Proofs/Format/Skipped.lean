import StubLibc.Proofs.Format.Agreement

/-!
# Conversions that are read over

A rendering that succeeds tells which conversions it read over: one for each directive whose
conversion is not printed, in the order of the format.  The format alone decides which they are; no
argument does.
-/

namespace StubLibc.Format

/-- The conversions that print; the others are read over. -/
def Conversion.isPrinted : Conversion → Bool
  | o | n | f | F | e | E | g | G | a | A => false
  | _ => true

/-- The conversion of a segment that is a directive and not printed. -/
def Segment.unprinted? : Segment → Option Conversion
  | literal _ => none
  | percent => none
  | directive spec => if spec.conversion.isPrinted then none else some spec.conversion

/-! ## Values of fetching actions -/

namespace Fetch

variable {α β : Type} {P : β → Prop}

/-- Whatever an action gives, wherever it starts, has a property. -/
def Yields (action : Fetch β) (P : β → Prop) : Prop :=
  ∀ (cursor : Cursor) (value : β) (after : Cursor), action cursor = (.ok value, after) → P value

theorem yields_pure {value : β} (h : P value) : Yields (pure value) P := by
  intro cursor found after hrun
  cases hrun
  exact h

/-- Only the end of an action gives its value. -/
theorem yields_bind {first : Fetch α} {second : α → Fetch β}
    (h : ∀ value, (second value).Yields P) : Yields (first >>= second) P := by
  intro cursor value after hrun
  rw [run_bind] at hrun
  rcases hfirst : first cursor with ⟨error | found, between⟩
  · rw [hfirst] at hrun
    cases hrun
  · rw [hfirst] at hrun
    exact h found between value after hrun

end Fetch

open Fetch

/-! ## One segment -/

namespace Directive

theorem yields_skip (directive : Directive) :
    directive.skip.Yields fun piece ↦ piece.skips = [directive.conversion] := by
  unfold skip
  split
  all_goals
    dsimp only
    split
    · exact yields_bind fun _ ↦ yields_bind fun _ ↦ yields_pure rfl
    · exact yields_bind fun _ ↦ yields_pure rfl

theorem isSome_field? (directive : Directive) (layout : Layout) :
    (directive.field? layout).isSome = directive.conversion.isPrinted := by
  rw [field?]
  cases directive.conversion <;> rfl

/-- A directive shows its argument or names its conversion, whatever the argument is. -/
theorem yields_render (directive : Directive) :
    directive.render.Yields fun piece ↦
      piece.skips = (Segment.directive directive).unprinted?.toList := by
  refine yields_bind fun layout ↦ ?_
  rw [renderOwn, Segment.unprinted?, ← directive.isSome_field? layout]
  cases directive.field? layout with
  | some field => exact yields_bind fun _ ↦ yields_pure rfl
  | none => exact directive.yields_skip

end Directive

theorem Segment.yields_render (segment : Segment) :
    segment.render.Yields fun piece ↦ piece.skips = segment.unprinted?.toList := by
  cases segment with
  | literal bytes => exact yields_pure rfl
  | percent => exact yields_pure rfl
  | directive spec => exact spec.yields_render

/-! ## Whole formats -/

/-- A rendering that succeeds has read over the unprinted conversions, in order. -/
theorem eq_filterMap_unprinted?_of_render {segments : List Segment} {cursor : Cursor}
    {skipped : List Conversion} (h : (render segments cursor).result = .ok skipped) :
    skipped = segments.filterMap Segment.unprinted? := by
  induction segments generalizing cursor skipped with
  | nil =>
    cases h
    rfl
  | cons segment rest ih =>
    rw [render] at h
    rcases hsegment : segment.render cursor with ⟨error | piece, after⟩
    · rw [hsegment] at h
      cases h
    · rw [hsegment] at h
      dsimp only [Rendering.prepend] at h
      have hpiece := segment.yields_render cursor piece after hsegment
      cases hrest : (render rest after).result with
      | error error =>
        rw [hrest] at h
        cases h
      | ok more =>
        rw [hrest] at h
        cases h
        rw [hpiece, ih hrest]
        cases hunprinted : segment.unprinted? with
        | none =>
          rw [List.filterMap_cons_none hunprinted]
          rfl
        | some conversion =>
          rw [List.filterMap_cons_some hunprinted]
          rfl

theorem eq_filterMap_unprinted?_of_renderFormat {format : Bytes} {args : List Arg}
    {rendered : Bytes} {skipped : List Conversion}
    (h : renderFormat format args = .ok (rendered, skipped)) :
    skipped = (Segment.ofFormat format).filterMap Segment.unprinted? := by
  unfold renderFormat at h
  dsimp only at h
  cases hresult : (render (Segment.ofFormat format) (Cursor.ofArgs args)).result with
  | error error =>
    rw [hresult] at h
    cases h
  | ok found =>
    rw [hresult] at h
    cases h
    exact eq_filterMap_unprinted?_of_render hresult

end StubLibc.Format
