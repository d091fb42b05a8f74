import StubLibc.Proofs.Argument.Divergence
import StubLibc.Proofs.Format.Agreement

/-!
# Fields that are too large

A format that needs a long double has no plan; any other format is planned as the slots of its
segments.  A directive has a wide field when a width or a precision is written above the largest
`int`, or when the argument of a `*` width is the least `int`.  A `*` precision is never too large,
because a negative one counts as none.  Once its `*` arguments are there, a directive is laid out
unless it has a wide field.
-/

namespace StubLibc

/-- What a drain without a fault leaves is the list without as many arguments. -/
theorem Cursor.pending_of_drain {kinds : List ArgKind} {cursor after : Cursor}
    (h : cursor.drain kinds = (none, after)) :
    after.pending = cursor.pending.drop kinds.length :=
  congrArg pending (eq_advance_of_drain h).2

theorem Cursor.exists_drain_of_append {first second : List ArgKind} {cursor after : Cursor}
    (h : cursor.drain (first ++ second) = (none, after)) :
    ∃ between, cursor.drain first = (none, between) ∧ between.drain second = (none, after) := by
  rw [drain_append] at h
  rcases hfirst : cursor.drain first with ⟨_ | fault, between⟩
  · rw [hfirst] at h
    exact ⟨between, rfl, h⟩
  · rw [hfirst] at h
    cases h

/-- A drain of one signed integer is a fetch of it. -/
theorem Cursor.nextInt_of_drain {cursor after : Cursor} (h : cursor.drain [.int] = (none, after)) :
    ∃ value, cursor.pending.head?.bind Arg.asInt? = some value ∧
      cursor.nextInt = (.ok value, after) := by
  obtain ⟨position, _ | ⟨arg, rest⟩⟩ := cursor
  · cases h
  · have hfits := Arg.isSome_asInt? arg
    cases hvalue : arg.asInt? with
    | none =>
      rw [hvalue] at hfits
      simp [drain, ← hfits] at h
    | some value =>
      rw [hvalue] at hfits
      refine ⟨value, hvalue, ?_⟩
      simpa [drain, nextInt, nextAs, hvalue, ← hfits] using h

namespace Format

/-! ## What makes a format fail -/

/-- The width that an extent asks for, with the argument of a `*` in front of `args`. -/
def Extent.widthFrom (args : List Arg) : Extent → Nat
  | absent => 0
  | fixed width => width
  | star => ((args.head?.bind Arg.asInt?).getD 0).toInt32.toInt.natAbs

/-- The precision that an extent asks for, with the argument of a `*` in front of `args`. -/
def Extent.precisionFrom (args : List Arg) : Extent → Option Nat
  | absent => none
  | fixed precision => some precision
  | star =>
    let precision := ((args.head?.bind Arg.asInt?).getD 0).toInt32.toInt
    if precision < 0 then none else some precision.toNat

/-- A directive with a field above the largest `int`: one that is written out, or a `*` width whose
argument, the first of `args`, has the least `int` in its low half. -/
def Directive.IsWide (directive : Directive) (args : List Arg) : Prop :=
  (∃ width, directive.width = .fixed width ∧ maxField < width) ∨
    (directive.width = .star ∧
      ∃ value, args.head?.bind Arg.asInt? = some value ∧ value.toInt32 = Int32.minValue) ∨
    ∃ precision, directive.precision = .fixed precision ∧ maxField < precision

namespace Segment

def slots : Segment → List Slot
  | literal _ => []
  | percent => []
  | directive spec => Slot.ofDirective spec

def isLongDouble : Segment → Bool
  | literal _ => false
  | percent => false
  | directive spec => spec.isLongDouble

def IsWide : Segment → List Arg → Prop
  | literal _, _ => False
  | percent, _ => False
  | directive spec, args => spec.IsWide args

end Segment

def HasLongDouble (segments : List Segment) : Prop :=
  ∃ segment ∈ segments, segment.isLongDouble = true

/-- Some directive has a wide field.  Its arguments are those of the list after the arguments of the
segments before it. -/
def HasWideField (segments : List Segment) (args : List Arg) : Prop :=
  ∃ before segment after, segments = before ++ segment :: after ∧
    segment.IsWide (args.drop (before.flatMap Segment.slots).length)

variable {segments rest : List Segment} {segment : Segment} {slots : List Slot} {args : List Arg}
  {directive : Directive} {cursor after : Cursor}

theorem hasLongDouble_cons :
    HasLongDouble (segment :: rest) ↔ segment.isLongDouble = true ∨ HasLongDouble rest := by
  simp [HasLongDouble]

instance : Decidable (HasLongDouble segments) :=
  inferInstanceAs (Decidable (∃ segment ∈ segments, segment.isLongDouble = true))

theorem hasWideField_cons :
    HasWideField (segment :: rest) args ↔
      segment.IsWide args ∨ HasWideField rest (args.drop segment.slots.length) := by
  have hdrop (before : List Segment) :
      args.drop ((segment :: before).flatMap Segment.slots).length =
        (args.drop segment.slots.length).drop (before.flatMap Segment.slots).length := by
    rw [List.flatMap_cons, List.length_append, List.drop_drop]
  constructor
  · rintro ⟨_ | ⟨first, before⟩, found, after, heq, hwide⟩
    · cases heq
      exact .inl hwide
    · cases heq
      exact .inr ⟨before, found, after, rfl, hdrop before ▸ hwide⟩
  · rintro (hwide | ⟨before, found, after, rfl, hwide⟩)
    · exact ⟨[], segment, rest, rfl, hwide⟩
    · exact ⟨segment :: before, found, after, rfl, (hdrop before).symm ▸ hwide⟩

/-! ## Plans -/

theorem ofSegments_of_hasLongDouble (h : HasLongDouble segments) :
    ∃ conversion, Slot.ofSegments segments = .error (.longDouble conversion) := by
  induction segments with
  | nil =>
    obtain ⟨segment, hmem, _⟩ := h
    cases hmem
  | cons segment rest ih =>
    rw [hasLongDouble_cons] at h
    cases segment with
    | literal bytes => exact ih (h.resolve_left Bool.false_ne_true)
    | percent => exact ih (h.resolve_left Bool.false_ne_true)
    | directive spec =>
      rw [Slot.ofSegments]
      by_cases hlong : spec.isLongDouble = true
      · exact ⟨spec.conversion, if_pos hlong⟩
      · obtain ⟨conversion, hrest⟩ := ih (h.resolve_left hlong)
        rw [if_neg hlong, hrest]
        exact ⟨conversion, rfl⟩

/-- A format without long doubles has a plan, the slots of its segments in order. -/
theorem ofSegments_of_not_hasLongDouble (h : ¬ HasLongDouble segments) :
    Slot.ofSegments segments = .ok (segments.flatMap Segment.slots) := by
  induction segments with
  | nil => rfl
  | cons segment rest ih =>
    rw [hasLongDouble_cons, not_or] at h
    have hrest := ih h.2
    cases segment with
    | literal bytes => exact hrest
    | percent => exact hrest
    | directive spec =>
      have hshort : ¬ spec.isLongDouble = true := h.1
      rw [Slot.ofSegments, if_neg hshort, hrest]
      rfl

/-- A plan is the slots of the segments, none of which converts a long double. -/
theorem of_ofSegments_eq_ok (h : Slot.ofSegments segments = .ok slots) :
    ¬ HasLongDouble segments ∧ slots = segments.flatMap Segment.slots := by
  have hshort : ¬ HasLongDouble segments := by
    intro hlong
    obtain ⟨conversion, herror⟩ := ofSegments_of_hasLongDouble hlong
    rw [herror] at h
    cases h
  rw [ofSegments_of_not_hasLongDouble hshort, Except.ok.injEq] at h
  exact ⟨hshort, h.symm⟩

theorem Segment.follows_render (hshort : ¬ segment.isLongDouble = true) :
    segment.render.Follows (segment.slots.map Slot.kind) := by
  cases segment with
  | literal bytes => exact Fetch.follows_pure _
  | percent => exact Fetch.follows_pure _
  | directive spec => exact Directive.follows_render (eq_false_of_ne_true hshort)

/-! ## Layouts -/

theorem maxField_lt_natAbs_iff (value : Int32) :
    maxField < value.toInt.natAbs ↔ value = Int32.minValue := by
  have hlower := value.le_toInt
  have hupper := value.toInt_lt
  rw [← Int32.toInt_inj, Int32.toInt_minValue, maxField]
  omega

theorem maxField_lt_widthFrom_iff (extent : Extent) (args : List Arg) :
    maxField < extent.widthFrom args ↔
      (∃ width, extent = .fixed width ∧ maxField < width) ∨
        extent = .star ∧
          ∃ value, args.head?.bind Arg.asInt? = some value ∧ value.toInt32 = Int32.minValue := by
  cases extent with
  | absent => simp [Extent.widthFrom]
  | fixed width => simp [Extent.widthFrom]
  | star =>
    rw [Extent.widthFrom, maxField_lt_natAbs_iff]
    cases args.head?.bind Arg.asInt? with
    | none =>
      have hzero : (0 : Int32) ≠ Int32.minValue := by decide
      simp [hzero]
    | some value => simp

theorem exists_maxField_lt_precisionFrom_iff (extent : Extent) (args : List Arg) :
    (∃ precision, extent.precisionFrom args = some precision ∧ maxField < precision) ↔
      ∃ precision, extent = .fixed precision ∧ maxField < precision := by
  cases extent with
  | absent => simp [Extent.precisionFrom]
  | fixed precision => simp [Extent.precisionFrom]
  | star =>
    have hupper := ((args.head?.bind Arg.asInt?).getD 0).toInt32.toInt_lt
    simp only [Extent.precisionFrom, maxField]
    grind

/-- A directive is wide when its width or its precision is above the largest `int`. -/
theorem Directive.isWide_iff :
    directive.IsWide args ↔
      maxField < directive.width.widthFrom args ∨
        ∃ precision, directive.precision.precisionFrom
          (args.drop (Slot.ofExtent directive.width).length) = some precision ∧
            maxField < precision := by
  rw [maxField_lt_widthFrom_iff, exists_maxField_lt_precisionFrom_iff, or_assoc, Directive.IsWide]

instance (directive : Directive) (args : List Arg) : Decidable (directive.IsWide args) :=
  have (fetched : Option Nat) : Decidable (∃ field, fetched = some field ∧ maxField < field) :=
    inferInstanceAs (Decidable (∃ field ∈ fetched, maxField < field))
  decidable_of_iff _ Directive.isWide_iff.symm

instance (segment : Segment) (args : List Arg) : Decidable (segment.IsWide args) :=
  match segment with
  | .literal _ => inferInstanceAs (Decidable False)
  | .percent => inferInstanceAs (Decidable False)
  | .directive spec => inferInstanceAs (Decidable (spec.IsWide args))

instance decidableHasWideField :
    (segments : List Segment) → (args : List Arg) → Decidable (HasWideField segments args)
  | [], _ => isFalse fun ⟨_, _, _, heq, _⟩ ↦ by simp at heq
  | segment :: rest, args =>
    have := decidableHasWideField rest (args.drop segment.slots.length)
    decidable_of_iff _ hasWideField_cons.symm

namespace Layout

theorem fetchWidth_of_drain {width : Extent}
    (h : cursor.drain ((Slot.ofExtent width).map Slot.kind) = (none, after)) (flags : Flags) :
    ∃ settled, fetchWidth flags width cursor =
      (.ok (settled, width.widthFrom cursor.pending), after) := by
  cases width with
  | absent =>
    cases h
    exact ⟨flags, rfl⟩
  | fixed width =>
    cases h
    exact ⟨flags, rfl⟩
  | star =>
    obtain ⟨value, hvalue, hnext⟩ := Cursor.nextInt_of_drain h
    rw [fetchWidth, Fetch.run_bind, Fetch.arg, hnext, Extent.widthFrom, hvalue]
    dsimp only [Option.getD_some]
    split
    · exact ⟨_, rfl⟩
    · exact ⟨flags, rfl⟩

theorem fetchPrecision_of_drain {precision : Extent}
    (h : cursor.drain ((Slot.ofExtent precision).map Slot.kind) = (none, after)) :
    fetchPrecision precision cursor = (.ok (precision.precisionFrom cursor.pending), after) := by
  cases precision with
  | absent =>
    cases h
    rfl
  | fixed precision =>
    cases h
    rfl
  | star =>
    obtain ⟨value, hvalue, hnext⟩ := Cursor.nextInt_of_drain h
    rw [fetchPrecision, Fetch.run_bind, Fetch.arg, hnext, Extent.precisionFrom, hvalue]
    rfl

/-- The layout of fields that are small enough; the width is looked at first. -/
def checked (flags : Flags) (width : Nat) (precision : Option Nat) : Except FormatError Layout := do
  let width ← checkField width
  let precision ← precision.mapM checkField
  pure ⟨flags, width, precision⟩

/-- Fields are laid out as they are if they are small enough, else one that is not is refused. -/
theorem checked_cases (flags : Flags) (width : Nat) (precision : Option Nat) :
    (width ≤ maxField ∧ (∀ value ∈ precision, value ≤ maxField) ∧
      checked flags width precision = .ok ⟨flags, width, precision⟩) ∨
    ∃ value, maxField < value ∧ (value = width ∨ value ∈ precision) ∧
      checked flags width precision = .error (.fieldOverflow value) := by
  have hcheck (value : Nat) : checkField value =
      if maxField < value then .error (.fieldOverflow value) else .ok value := rfl
  rw [checked, hcheck]
  by_cases hwidth : maxField < width
  · rw [if_pos hwidth]
    exact .inr ⟨width, hwidth, .inl rfl, rfl⟩
  rw [if_neg hwidth]
  have hwidth := Nat.not_lt.mp hwidth
  cases precision with
  | none => exact .inl ⟨hwidth, fun _ hvalue ↦ (nomatch hvalue), rfl⟩
  | some value =>
    rw [Option.mapM_some, hcheck]
    by_cases hvalue : maxField < value
    · rw [if_pos hvalue]
      exact .inr ⟨value, hvalue, .inr rfl, rfl⟩
    · rw [if_neg hvalue]
      refine .inl ⟨hwidth, ?_, rfl⟩
      rintro _ ⟨⟩
      exact Nat.not_lt.mp hvalue

/-- Fields that have been fetched are checked, whatever they are. -/
theorem resolve_of_fetches {between : Cursor} {flags : Flags} {width : Nat}
    {precision : Option Nat}
    (hwidth : fetchWidth directive.flags directive.width cursor = (.ok (flags, width), between))
    (hprecision : fetchPrecision directive.precision between = (.ok precision, after)) :
    resolve directive cursor = (checked flags width precision, after) := by
  rw [resolve, Fetch.run_bind, hwidth]
  dsimp only
  rw [Fetch.run_bind, hprecision]
  dsimp only
  unfold checked
  rw [Fetch.run_bind]
  cases checkField width with
  | error error => rfl
  | ok width =>
    change (_ >>= _ : Fetch Layout) after = _
    rw [Fetch.run_bind]
    cases precision.mapM checkField with
    | error error => rfl
    | ok precision => rfl

/-- Once the `*` arguments are there, the layout of a directive depends on its fields alone. -/
theorem resolve_of_drain (h : cursor.drain (directive.starSlots.map Slot.kind) = (none, after)) :
    ∃ settled, resolve directive cursor =
      (checked settled (directive.width.widthFrom cursor.pending)
        (directive.precision.precisionFrom
          (cursor.pending.drop (Slot.ofExtent directive.width).length)), after) := by
  rw [Directive.starSlots, List.map_append] at h
  obtain ⟨between, hstar, hrest⟩ := Cursor.exists_drain_of_append h
  obtain ⟨settled, hwidth⟩ := fetchWidth_of_drain hstar directive.flags
  have hprecision := fetchPrecision_of_drain hrest
  rw [Cursor.pending_of_drain hstar, List.length_map] at hprecision
  exact ⟨settled, resolve_of_fetches hwidth hprecision⟩

end Layout

end Format

end StubLibc
