import StubLibc.Proofs.Format.Fields

/-!
# How a directive comes out

A directive fetches its `*` arguments, has its fields checked, refuses a long double, and only then
fetches its own argument.  `Directive.ComesOut` says what may become of it, with what decided that
and where the cursor stands afterwards.  A rendering that fails has rendered all segments before the
directive that fails, and fails as this directive does.  A planned format whose arguments can be
fetched is therefore refused for one reason only, a wide field.
-/

namespace StubLibc.Format

variable {segments rest : List Segment} {segment : Segment} {directive : Directive}
  {cursor after : Cursor} {piece : Piece} {skipped : List Conversion} {error : FormatError}
  {fault : ArgFault}

/-! ## Fetches along a list of classes -/

namespace Fetch

variable {α β : Type} {action : Fetch α} {kinds : List ArgKind}

/-- Where the arguments are there, only a field can be refused. -/
theorem Walked.of_drain {outcome : Except FormatError α × Cursor} (h : Walked kinds cursor outcome)
    (hdrain : cursor.drain kinds = (none, after)) :
    (∃ value, outcome = (.ok value, after)) ∨
      ∃ value stop, outcome = (.error (.fieldOverflow value), stop) := by
  cases h with
  | ok hfetched =>
    rw [hdrain, Prod.mk.injEq] at hfetched
    rw [hfetched.2]
    exact .inl ⟨_, rfl⟩
  | argument hfault =>
    rw [hdrain] at hfault
    cases hfault
  | fieldOverflow => exact .inr ⟨_, _, rfl⟩

/-- Where an argument cannot be fetched, either that is the failure or a field is. -/
theorem Walked.of_drain_fault {outcome : Except FormatError α × Cursor}
    (h : Walked kinds cursor outcome) (hdrain : cursor.drain kinds = (some fault, after)) :
    outcome = (.error (.argument fault), after) ∨
      ∃ value stop, outcome = (.error (.fieldOverflow value), stop) := by
  cases h with
  | ok hfetched =>
    rw [hdrain] at hfetched
    cases hfetched
  | argument hfault =>
    rw [hdrain, Prod.mk.injEq, Option.some.injEq] at hfault
    rw [hfault.1, hfault.2]
    exact .inl rfl
  | fieldOverflow => exact .inr ⟨_, _, rfl⟩

/-- Wherever the action starts, it does not refuse a field. -/
def KeepsFields (action : Fetch α) : Prop :=
  ∀ cursor value stop, action cursor ≠ (.error (.fieldOverflow value), stop)

theorem keepsFields_pure (value : α) : KeepsFields (pure value) := by
  intro cursor field stop h
  cases h

theorem keepsFields_arg (step : Cursor → Except ArgFault α × Cursor) : KeepsFields (arg step) := by
  intro cursor field stop h
  unfold arg at h
  split at h
  · cases h
  · cases h

theorem keepsFields_longDouble (conversion : Conversion) :
    KeepsFields (throw (.longDouble conversion) : Fetch α) := by
  intro cursor field stop h
  cases h

theorem KeepsFields.bind {first : Fetch α} {second : α → Fetch β} (hfirst : first.KeepsFields)
    (hsecond : ∀ value, (second value).KeepsFields) : KeepsFields (first >>= second) := by
  intro cursor field stop h
  rw [run_bind] at h
  rcases hrun : first cursor with ⟨error | value, between⟩
  · rw [hrun] at h
    cases h
    exact hfirst cursor field stop hrun
  · rw [hrun] at h
    exact hsecond value between field stop h

theorem Follows.exists_eq_ok (hfollows : action.Follows kinds) (hkeeps : action.KeepsFields)
    (h : cursor.drain kinds = (none, after)) : ∃ value, action cursor = (.ok value, after) :=
  ((hfollows cursor).of_drain h).resolve_right fun ⟨value, stop, hfield⟩ ↦
    hkeeps cursor value stop hfield

theorem Follows.eq_error (hfollows : action.Follows kinds) (hkeeps : action.KeepsFields)
    (h : cursor.drain kinds = (some fault, after)) :
    action cursor = (.error (.argument fault), after) :=
  ((hfollows cursor).of_drain_fault h).resolve_right fun ⟨value, stop, hfield⟩ ↦
    hkeeps cursor value stop hfield

end Fetch

open Fetch

/-! ## One directive -/

namespace Layout

theorem keepsFields_fetchWidth (flags : Flags) (width : Extent) :
    (fetchWidth flags width).KeepsFields := by
  cases width with
  | absent => exact keepsFields_pure _
  | fixed width => exact keepsFields_pure _
  | star =>
    refine (keepsFields_arg _).bind fun value ↦ ?_
    dsimp only
    split <;> exact keepsFields_pure _

theorem keepsFields_fetchPrecision (precision : Extent) :
    (fetchPrecision precision).KeepsFields := by
  cases precision with
  | absent => exact keepsFields_pure _
  | fixed precision => exact keepsFields_pure _
  | star => exact (keepsFields_arg _).bind fun _ ↦ keepsFields_pure _

/-- A `*` argument that cannot be fetched is what laying out fails with, whatever the fields are. -/
theorem resolve_of_drain_fault
    (h : cursor.drain (directive.starSlots.map Slot.kind) = (some fault, after)) :
    resolve directive cursor = (.error (.argument fault), after) := by
  have hwidth := follows_fetchWidth directive.flags directive.width
  have hprecision := follows_fetchPrecision directive.precision
  rw [Directive.starSlots, List.map_append, Cursor.drain_append] at h
  rcases hstar : cursor.drain ((Slot.ofExtent directive.width).map Slot.kind) with
    ⟨_ | found, between⟩
  · rw [hstar] at h
    obtain ⟨⟨flags, width⟩, hfetch⟩ := hwidth.exists_eq_ok (keepsFields_fetchWidth _ _) hstar
    have hfault := hprecision.eq_error (keepsFields_fetchPrecision _) h
    rw [resolve, run_bind, hfetch]
    dsimp only
    rw [run_bind, hfault]
  · rw [hstar] at h
    cases h
    rw [resolve, run_bind, hwidth.eq_error (keepsFields_fetchWidth _ _) hstar]

end Layout

namespace Directive

theorem keepsFields_skip (directive : Directive) : directive.skip.KeepsFields := by
  unfold skip
  split
  all_goals
    dsimp only
    split
    · exact (keepsFields_longDouble _).bind fun _ ↦
        (keepsFields_arg _).bind fun _ ↦ keepsFields_pure _
    · exact (keepsFields_arg _).bind fun _ ↦ keepsFields_pure _

theorem keepsFields_field? {layout : Layout} {field : Fetch Field}
    (h : directive.field? layout = some field) : field.KeepsFields := by
  rw [field?] at h
  cases hconversion : directive.conversion <;> rw [hconversion] at h <;> cases h
  all_goals exact (keepsFields_arg _).bind fun _ ↦ keepsFields_pure _

/-- Behind its layout a directive only fetches, and a fetch refuses no field. -/
theorem keepsFields_renderOwn (directive : Directive) (layout : Layout) :
    (directive.renderOwn layout).KeepsFields := by
  rw [renderOwn]
  cases hfield : directive.field? layout with
  | some field => exact (keepsFields_field? hfield).bind fun _ ↦ keepsFields_pure _
  | none => exact directive.keepsFields_skip

theorem isLongDouble_iff :
    directive.isLongDouble = true ↔
      directive.length = .bigL ∧ directive.conversion.argKind = .double := by
  rw [isLongDouble, Bool.and_eq_true, beq_iff_eq, beq_iff_eq]

/-- A long double is refused in place of its fetch. -/
theorem renderOwn_of_isLongDouble (hlong : directive.isLongDouble = true) (layout : Layout)
    (cursor : Cursor) :
    directive.renderOwn layout cursor = (.error (.longDouble directive.conversion), cursor) := by
  have hskip : directive.skip cursor = (.error (.longDouble directive.conversion), cursor) := by
    rw [skip, if_pos hlong, run_bind]
    rfl
  have hkind := (isLongDouble_iff.mp hlong).2
  rw [renderOwn, field?]
  cases hconversion : directive.conversion <;> rw [hconversion] at hkind hskip
  case f | F | e | E | g | G | a | A => exact hskip
  all_goals cases hkind

/-- What may become of a directive, from the arguments that it finds. -/
inductive ComesOut (directive : Directive) (cursor : Cursor) :
    Except FormatError Piece × Cursor → Prop
  /-- All arguments were there. -/
  | rendered {piece : Piece} {after : Cursor} (hnarrow : ¬ directive.IsWide cursor.pending)
      (hshort : directive.isLongDouble = false)
      (h : cursor.drain ((Slot.ofDirective directive).map Slot.kind) = (none, after)) :
    ComesOut directive cursor (.ok piece, after)
  | argument {fault : ArgFault} {after : Cursor}
      (h : cursor.drain ((Slot.ofDirective directive).map Slot.kind) = (some fault, after)) :
    ComesOut directive cursor (.error (.argument fault), after)
  /-- The `*` arguments were there; no other was looked at. -/
  | fieldOverflow {value : Nat} {after : Cursor} (hwide : directive.IsWide cursor.pending)
      (hvalue : maxField < value)
      (h : cursor.drain (directive.starSlots.map Slot.kind) = (none, after)) :
    ComesOut directive cursor (.error (.fieldOverflow value), after)
  /-- The `*` arguments were there; no other was looked at. -/
  | longDouble {after : Cursor} (hnarrow : ¬ directive.IsWide cursor.pending)
      (hlong : directive.isLongDouble = true)
      (h : cursor.drain (directive.starSlots.map Slot.kind) = (none, after)) :
    ComesOut directive cursor (.error (.longDouble directive.conversion), after)

/-- With its `*` arguments fetched and no wide field, a directive comes out as its own fetch
does. -/
theorem comesOut_renderOwn {between : Cursor} (hnarrow : ¬ directive.IsWide cursor.pending)
    (hstars : cursor.drain (directive.starSlots.map Slot.kind) = (none, between))
    (layout : Layout) : directive.ComesOut cursor (directive.renderOwn layout between) := by
  by_cases hlong : directive.isLongDouble = true
  · -- The cursor stays behind the `*` arguments, although the slots go one further.
    rw [renderOwn_of_isLongDouble hlong]
    exact .longDouble hnarrow hlong hstars
  have hshort := eq_false_of_ne_true hlong
  have hfollows := follows_renderOwn hshort layout
  have hkeeps := directive.keepsFields_renderOwn layout
  have hdrain : cursor.drain ((Slot.ofDirective directive).map Slot.kind) =
      between.drain [directive.conversion.argKind] := by
    rw [directive.map_kind_ofDirective, Cursor.drain_append, hstars]
  rcases hown : between.drain [directive.conversion.argKind] with ⟨_ | fault, after⟩
  · obtain ⟨piece, hpiece⟩ := hfollows.exists_eq_ok hkeeps hown
    rw [hpiece]
    exact .rendered hnarrow hshort (hdrain.trans hown)
  · rw [hfollows.eq_error hkeeps hown]
    exact .argument (hdrain.trans hown)

theorem comesOut_render (directive : Directive) (cursor : Cursor) :
    directive.ComesOut cursor (directive.render cursor) := by
  rw [render, run_bind]
  rcases hstars : cursor.drain (directive.starSlots.map Slot.kind) with ⟨_ | fault, between⟩
  · obtain ⟨settled, hresolve⟩ := Layout.resolve_of_drain hstars
    rw [hresolve]
    have hwide : directive.IsWide cursor.pending ↔ _ := directive.isWide_iff
    rcases Layout.checked_cases settled (directive.width.widthFrom cursor.pending)
      (directive.precision.precisionFrom
        (cursor.pending.drop (Slot.ofExtent directive.width).length)) with
      ⟨hwidth, hprecision, hchecked⟩ | ⟨value, hvalue, hfield, hchecked⟩
    · rw [hchecked]
      refine comesOut_renderOwn ?_ hstars _
      rw [hwide]
      rintro (hlt | ⟨value, hfield, hlt⟩)
      · exact Nat.not_lt.mpr hwidth hlt
      · exact Nat.not_lt.mpr (hprecision value hfield) hlt
    · rw [hchecked]
      refine .fieldOverflow (hwide.mpr ?_) hvalue hstars
      rcases hfield with rfl | hfield
      · exact .inl hvalue
      · exact .inr ⟨value, hfield, hvalue⟩
  · rw [Layout.resolve_of_drain_fault hstars]
    refine .argument ?_
    rw [directive.map_kind_ofDirective, Cursor.drain_append, hstars]

end Directive

/-! ## Whole formats -/

namespace Segment

/-- A segment that is rendered has fetched its arguments. -/
theorem of_render_eq_ok (h : segment.render cursor = (.ok piece, after)) :
    segment.isLongDouble = false ∧ ¬ segment.IsWide cursor.pending ∧
      cursor.drain (segment.slots.map Slot.kind) = (none, after) := by
  cases segment with
  | literal bytes =>
    cases h
    exact ⟨rfl, id, rfl⟩
  | percent =>
    cases h
    exact ⟨rfl, id, rfl⟩
  | directive spec =>
    have hcomes := spec.comesOut_render cursor
    rw [← render, h] at hcomes
    cases hcomes with
    | rendered hnarrow hshort hdrain => exact ⟨hshort, hnarrow, hdrain⟩

theorem exists_of_render_eq_error (h : segment.render cursor = (.error error, after)) :
    ∃ spec, segment = .directive spec ∧ spec.render cursor = (.error error, after) := by
  cases segment with
  | literal bytes => cases h
  | percent => cases h
  | directive spec => exact ⟨spec, rfl, h⟩

end Segment

/-- A rendering that succeeds has rendered its first segment and then the others. -/
theorem exists_of_render_cons_eq_ok
    (h : (render (segment :: rest) cursor).result = .ok skipped) :
    ∃ piece between more, segment.render cursor = (.ok piece, between) ∧
      (render rest between).result = .ok more ∧
      (render (segment :: rest) cursor).cursor = (render rest between).cursor := by
  rw [render] at h ⊢
  rcases hsegment : segment.render cursor with ⟨error | piece, between⟩
  · rw [hsegment] at h
    cases h
  · rw [hsegment] at h
    dsimp only [Rendering.prepend] at h
    cases hrest : (render rest between).result with
    | error error =>
      rw [hrest] at h
      cases h
    | ok more => exact ⟨piece, between, more, rfl, hrest, rfl⟩

/-- A rendering that succeeds has fetched the arguments of all segments; none has a wide field or
converts a long double. -/
theorem of_render_eq_ok (h : (render segments cursor).result = .ok skipped) :
    ¬ HasLongDouble segments ∧ ¬ HasWideField segments cursor.pending ∧
      cursor.drain ((segments.flatMap Segment.slots).map Slot.kind) =
        (none, (render segments cursor).cursor) := by
  induction segments generalizing cursor skipped with
  | nil =>
    refine ⟨fun ⟨_, hmem, _⟩ ↦ (nomatch hmem), ?_, rfl⟩
    rintro ⟨before, segment, after, heq, -⟩
    simp at heq
  | cons segment rest ih =>
    obtain ⟨piece, between, more, hsegment, hrest, hcursor⟩ := exists_of_render_cons_eq_ok h
    obtain ⟨hown, hnarrow, hfetched⟩ := Segment.of_render_eq_ok hsegment
    obtain ⟨hshort, hothers, hdrain⟩ := ih hrest
    have hpending := Cursor.pending_of_drain hfetched
    rw [List.length_map] at hpending
    rw [hasLongDouble_cons, not_or, hasWideField_cons, not_or, ← hpending, hcursor,
      List.flatMap_cons, List.map_append, Cursor.drain_append, hfetched]
    exact ⟨⟨Bool.not_eq_true _ ▸ hown, hshort⟩, ⟨hnarrow, hothers⟩, hdrain⟩

/-- A rendering that fails has rendered all segments before a directive that fails. -/
theorem exists_of_render_eq_error (h : (render segments cursor).result = .error error) :
    ∃ before directive after skipped, segments = before ++ .directive directive :: after ∧
      (render before cursor).result = .ok skipped ∧
      (render before cursor).written = (render segments cursor).written ∧
      directive.render (render before cursor).cursor =
        (.error error, (render segments cursor).cursor) := by
  induction segments generalizing cursor with
  | nil => cases h
  | cons segment rest ih =>
    rw [render] at h ⊢
    rcases hsegment : segment.render cursor with ⟨found | piece, between⟩
    · -- It fails here: nothing has been rendered before it.
      rw [hsegment] at h
      cases h
      obtain ⟨directive, rfl, hdirective⟩ := Segment.exists_of_render_eq_error hsegment
      exact ⟨[], directive, rest, [], rfl, rfl, rfl, hdirective⟩
    · rw [hsegment] at h
      dsimp only [Rendering.prepend] at h ⊢
      cases hrest : (render rest between).result with
      | ok more =>
        rw [hrest] at h
        cases h
      | error found =>
        rw [hrest] at h
        cases h
        obtain ⟨before, directive, after, skipped, rfl, hbefore, hwritten, hdirective⟩ := ih hrest
        refine ⟨segment :: before, directive, after, piece.skips ++ skipped, rfl, ?_⟩
        rw [render, hsegment]
        dsimp only [Rendering.prepend]
        rw [hbefore, hwritten]
        exact ⟨rfl, rfl, hdirective⟩

/-- A format that is refused for a field has a wide one. -/
theorem hasWideField_of_render_eq_error {value : Nat}
    (h : (render segments cursor).result = .error (.fieldOverflow value)) :
    HasWideField segments cursor.pending := by
  obtain ⟨before, directive, after, skipped, rfl, hbefore, -, hdirective⟩ :=
    exists_of_render_eq_error h
  have hpending := Cursor.pending_of_drain (of_render_eq_ok hbefore).2.2
  rw [List.length_map] at hpending
  have hcomes := directive.comesOut_render (render before cursor).cursor
  rw [hdirective] at hcomes
  refine ⟨before, .directive directive, after, rfl, ?_⟩
  cases hcomes with
  | fieldOverflow hwide _ _ => exact hpending ▸ hwide

/-- A planned format whose arguments are all there is refused exactly when it has a wide field. -/
theorem exists_render_eq_error_iff_hasWideField (hshort : ¬ HasLongDouble segments)
    (hdrain : cursor.drain ((segments.flatMap Segment.slots).map Slot.kind) = (none, after)) :
    (∃ value, (render segments cursor).result = .error (.fieldOverflow value)) ↔
      HasWideField segments cursor.pending := by
  constructor
  · rintro ⟨value, h⟩
    exact hasWideField_of_render_eq_error h
  · intro hwide
    have hwalked := walked_render (ofSegments_of_not_hasLongDouble hshort) cursor
    rcases hwalked.of_drain hdrain with ⟨skipped, hok⟩ | ⟨value, stop, hfield⟩
    · exact absurd hwide (of_render_eq_ok (congrArg Prod.fst hok)).2.1
    · exact ⟨value, congrArg Prod.fst hfield⟩

variable {format : Bytes}

theorem exists_renderFormat_eq_ok_iff {args : List Arg} :
    (∃ rendering, renderFormat format args = .ok rendering) ↔
      ∃ skipped, (render (Segment.ofFormat format) (Cursor.ofArgs args)).result = .ok skipped := by
  rw [renderFormat]
  cases (render (Segment.ofFormat format) (Cursor.ofArgs args)).result with
  | error error => simp [Except.map]
  | ok skipped => simp [Except.map]

theorem renderFormat_eq_error_iff {args : List Arg} :
    renderFormat format args = .error error ↔
      (render (Segment.ofFormat format) (Cursor.ofArgs args)).result = .error error := by
  rw [renderFormat]
  cases (render (Segment.ofFormat format) (Cursor.ofArgs args)).result with
  | error error => simp [Except.map]
  | ok skipped => simp [Except.map]

/-! ## Collected arguments -/

/-- The typed arguments that a format without long doubles takes from a C argument list. -/
def arguments (format : Bytes) (args : VaList) : List Arg :=
  Slot.collect ((Segment.ofFormat format).flatMap Segment.slots) args

/-- Collected arguments leave a field as the only thing that rendering may refuse. -/
theorem renderFormat_arguments (hshort : ¬ HasLongDouble (Segment.ofFormat format))
    (args : VaList) :
    (∃ rendering, renderFormat format (arguments format args) = .ok rendering) ∨
      ∃ value, renderFormat format (arguments format args) = .error (.fieldOverflow value) := by
  simp only [exists_renderFormat_eq_ok_iff, renderFormat_eq_error_iff]
  have hwalked := walked_render (ofSegments_of_not_hasLongDouble hshort)
    (Cursor.ofArgs (arguments format args))
  rcases hwalked.of_drain (Slot.drain_collect _ args) with ⟨skipped, hok⟩ | ⟨value, stop, hfield⟩
  · exact .inl ⟨skipped, congrArg Prod.fst hok⟩
  · exact .inr ⟨value, congrArg Prod.fst hfield⟩

theorem exists_renderFormat_eq_error_iff (hshort : ¬ HasLongDouble (Segment.ofFormat format))
    (args : VaList) :
    (∃ value, renderFormat format (arguments format args) = .error (.fieldOverflow value)) ↔
      HasWideField (Segment.ofFormat format) (arguments format args) := by
  simp only [renderFormat_eq_error_iff]
  exact exists_render_eq_error_iff_hasWideField hshort (Slot.drain_collect _ args)

end StubLibc.Format
