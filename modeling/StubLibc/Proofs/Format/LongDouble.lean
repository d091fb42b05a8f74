import StubLibc.Proofs.Format.Outcomes

/-!
# Refusing long doubles

A long double is refused twice: by the plan, before anything is fetched, and by the directive
itself, which is reached only if all directives before it have been rendered.  Both name the first
directive that converts a long double.  Rendering may fail before it gets there, but never gets past
it.
-/

namespace StubLibc.Format

/-- The conversions of floating numbers. -/
def Conversion.floating : List Conversion := [f, F, e, E, g, G, a, A]

/-- A directive with the modifier `L` and a floating conversion. -/
def Segment.AsksLongDouble : Segment → Prop
  | directive spec => spec.length = .bigL ∧ spec.conversion ∈ Conversion.floating
  | _ => False

/-- The first directive that asks for a long double. -/
def FirstLongDouble (segments : List Segment) (directive : Directive) : Prop :=
  ∃ before after, segments = before ++ .directive directive :: after ∧
    (Segment.directive directive).AsksLongDouble ∧
    ∀ segment ∈ before, ¬ segment.AsksLongDouble

variable {segments : List Segment} {segment : Segment} {directive other : Directive}
  {cursor : Cursor} {conversion : Conversion} {error : FormatError}

theorem Conversion.mem_floating_iff : conversion ∈ floating ↔ conversion.argKind = .double := by
  cases conversion <;> decide

theorem Segment.asksLongDouble_iff : segment.AsksLongDouble ↔ segment.isLongDouble = true := by
  cases segment with
  | literal bytes => simp [AsksLongDouble, isLongDouble]
  | percent => simp [AsksLongDouble, isLongDouble]
  | directive spec =>
    rw [AsksLongDouble, Conversion.mem_floating_iff, isLongDouble, Directive.isLongDouble_iff]

theorem firstLongDouble_iff :
    FirstLongDouble segments directive ↔
      segments.find? Segment.isLongDouble = some (.directive directive) := by
  rw [List.find?_eq_some_iff_append, FirstLongDouble]
  simp only [Segment.asksLongDouble_iff, Bool.not_eq_true', Bool.not_eq_true]
  constructor
  · rintro ⟨before, after, heq, hlong, hbefore⟩
    exact ⟨hlong, before, after, heq, hbefore⟩
  · rintro ⟨hlong, before, after, heq, hbefore⟩
    exact ⟨before, after, heq, hlong, hbefore⟩

theorem FirstLongDouble.eq (h : FirstLongDouble segments directive)
    (hother : FirstLongDouble segments other) : directive = other := by
  rw [firstLongDouble_iff] at h hother
  rw [h, Option.some.injEq, Segment.directive.injEq] at hother
  exact hother

theorem FirstLongDouble.hasLongDouble (h : FirstLongDouble segments directive) :
    HasLongDouble segments := by
  rw [firstLongDouble_iff] at h
  exact ⟨_, List.mem_of_find?_eq_some h, List.find?_some h⟩

/-! ## The two checks -/

/-- The plan refuses the first long double. -/
theorem exists_firstLongDouble_of_ofSegments (h : Slot.ofSegments segments = .error error) :
    ∃ directive, FirstLongDouble segments directive ∧ error = .longDouble directive.conversion := by
  simp only [firstLongDouble_iff]
  induction segments with
  | nil => cases h
  | cons segment rest ih =>
    cases segment with
    | literal bytes => exact ih h
    | percent => exact ih h
    | directive spec =>
      rw [Slot.ofSegments] at h
      by_cases hlong : spec.isLongDouble = true
      · rw [if_pos hlong] at h
        cases h
        exact ⟨spec, List.find?_cons_of_pos hlong, rfl⟩
      · rw [if_neg hlong] at h
        have hown : ¬ (Segment.directive spec).isLongDouble = true := hlong
        rw [List.find?_cons_of_neg hown]
        cases hrest : Slot.ofSegments rest with
        | ok slots =>
          rw [hrest] at h
          cases h
        | error found =>
          rw [hrest] at h
          cases h
          exact ih hrest

/-- A directive refuses the first long double too, because all before it have been rendered. -/
theorem exists_firstLongDouble_of_render
    (h : (render segments cursor).result = .error (.longDouble conversion)) :
    ∃ directive, FirstLongDouble segments directive ∧ directive.conversion = conversion := by
  obtain ⟨before, directive, after, skipped, rfl, hbefore, -, hdirective⟩ :=
    exists_of_render_eq_error h
  have hcomes := directive.comesOut_render (render before cursor).cursor
  rw [hdirective] at hcomes
  cases hcomes with
  | longDouble hnarrow hlong hdrain =>
    refine ⟨directive, ⟨before, after, rfl, Segment.asksLongDouble_iff.mpr hlong, ?_⟩, rfl⟩
    intro segment hmem hasks
    exact (of_render_eq_ok hbefore).1 ⟨segment, hmem, Segment.asksLongDouble_iff.mp hasks⟩

theorem renderFormat_ne_longDouble {format : Bytes} (h : ¬ HasLongDouble (Segment.ofFormat format))
    (args : List Arg) (found : Conversion) :
    renderFormat format args ≠ .error (.longDouble found) := by
  intro hrefused
  obtain ⟨directive, hfirst, -⟩ :=
    exists_firstLongDouble_of_render (renderFormat_eq_error_iff.mp hrefused)
  exact h hfirst.hasLongDouble

/-- A format whose plan is refused for a long double fails for all arguments, and for no other long
double than the plan names: that of the first directive that asks for one.  A planned format never
fails for a long double.  With other conversions the modifier `L` is no reason to refuse a
format. -/
theorem longDouble_checks_agree (format : Bytes) :
    let segments := Segment.ofFormat format
    (∀ conversion, Slot.ofSegments segments = .error (.longDouble conversion) →
      (∃ directive, FirstLongDouble segments directive ∧ directive.conversion = conversion) ∧
      ∀ args, ∃ error, renderFormat format args = .error error ∧
        ∀ found, error = .longDouble found → found = conversion) ∧
    (∀ slots, Slot.ofSegments segments = .ok slots →
      ∀ args found, renderFormat format args ≠ .error (.longDouble found)) ∧
    ((∀ directive, .directive directive ∈ segments → directive.length = .bigL →
        directive.conversion ∈ [Conversion.d, .i, .u, .x, .X, .o, .s, .c, .p, .n]) →
      (∃ slots, Slot.ofSegments segments = .ok slots) ∧
        ∀ args found, renderFormat format args ≠ .error (.longDouble found)) := by
  intro segments
  refine ⟨fun conversion hplan ↦ ?_, fun slots hplan ↦ ?_, fun hother ↦ ?_⟩
  · obtain ⟨directive, hfirst, ⟨⟩⟩ := exists_firstLongDouble_of_ofSegments hplan
    refine ⟨⟨directive, hfirst, rfl⟩, fun args ↦ ?_⟩
    cases hresult : (render segments (Cursor.ofArgs args)).result with
    | ok skipped => exact absurd hfirst.hasLongDouble (of_render_eq_ok hresult).1
    | error error =>
      refine ⟨error, renderFormat_eq_error_iff.mpr hresult, ?_⟩
      rintro found rfl
      obtain ⟨other, hfound, rfl⟩ := exists_firstLongDouble_of_render hresult
      rw [hfound.eq hfirst]
  · exact renderFormat_ne_longDouble (of_ofSegments_eq_ok hplan).1
  · have hshort : ¬ HasLongDouble segments := by
      rintro ⟨segment, hmem, hlong⟩
      cases segment with
      | literal bytes => cases hlong
      | percent => cases hlong
      | directive spec =>
        obtain ⟨hlength, hfloating⟩ := Segment.asksLongDouble_iff.mpr hlong
        have hconversion := hother spec hmem hlength
        revert hfloating hconversion
        cases spec.conversion <;> decide
    exact ⟨⟨_, ofSegments_of_not_hasLongDouble hshort⟩, renderFormat_ne_longDouble hshort⟩

/-- The plan names the first of two long doubles; rendering names it too, or fails before it. -/
example :
    let format := Bytes.ofAscii ['%', 'L', 'd', '%', '*', 'L', 'f', '%', 'L', 'a']
    Slot.ofSegments (Segment.ofFormat format) = .error (.longDouble .f) ∧
      renderFormat format [.int 7, .uint 9] = .error (.longDouble .f) ∧
      renderFormat format [.int 7, .ptr 9] = .error (.argument (.kindMismatch 1 .int .ptr)) := by
  decide +kernel

end StubLibc.Format
