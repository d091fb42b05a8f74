import Mathlib.Control.Monad.Basic
import StubLibc.Format.VaList
import StubLibc.Proofs.Argument.Drain
import StubLibc.Session.Formatted

/-!
# Plan, collection and rendering agree

A format is walked three times: to plan its argument slots, to collect one argument for each slot,
and to render it.  The walks agree: rendering a segment list drains the cursor along the classes of
the planned slots, and collected arguments have exactly these classes.  Rendering what was collected
therefore never misses an argument and leaves none over; only a field that is too large stops it.
-/

namespace StubLibc.Format

namespace Fetch

variable {α β : Type}

/-- What a walk along `kinds` may do from `cursor`: end after all of them, stop at the fault that
draining them meets, or refuse a field. -/
inductive Walked (kinds : List ArgKind) (cursor : Cursor) : Except FormatError α × Cursor → Prop
  | ok {value : α} {after : Cursor} (h : cursor.drain kinds = (none, after)) :
    Walked kinds cursor (.ok value, after)
  | argument {fault : ArgFault} {after : Cursor} (h : cursor.drain kinds = (some fault, after)) :
    Walked kinds cursor (.error (.argument fault), after)
  | fieldOverflow {value : Nat} {after : Cursor} :
    Walked kinds cursor (.error (.fieldOverflow value), after)

/-- The action fetches along `kinds`, from wherever it starts. -/
def Follows (action : Fetch α) (kinds : List ArgKind) : Prop :=
  ∀ cursor : Cursor, Walked kinds cursor (action cursor)

theorem run_bind (first : Fetch α) (second : α → Fetch β) (cursor : Cursor) :
    (first >>= second) cursor =
      match first cursor with
      | (.ok value, after) => second value after
      | (.error error, after) => (.error error, after) := by
  simp only [bind, ExceptT.bind, ExceptT.mk, StateT.bind]
  rcases first cursor with ⟨error | value, after⟩ <;> rfl

theorem follows_pure (value : α) : Follows (pure value) [] :=
  fun _ ↦ .ok rfl

/-- A walk goes on where the one before it ended. -/
theorem Follows.bind {first : Fetch α} {second : α → Fetch β} {kinds more : List ArgKind}
    (hfirst : first.Follows kinds) (hsecond : ∀ value, (second value).Follows more) :
    Follows (first >>= second) (kinds ++ more) := by
  intro cursor
  rw [run_bind]
  have hwalked := hfirst cursor
  generalize first cursor = outcome at hwalked ⊢
  cases hwalked with
  | argument h => exact .argument (by rw [Cursor.drain_append, h])
  | fieldOverflow => exact .fieldOverflow
  | @ok value after h =>
    have hdrain : cursor.drain (kinds ++ more) = after.drain more := by
      rw [Cursor.drain_append, h]
    have hrest := hsecond value after
    dsimp only
    generalize second value after = outcome at hrest ⊢
    cases hrest with
    | ok h => exact .ok (hdrain.trans h)
    | argument h => exact .argument (hdrain.trans h)
    | fieldOverflow => exact .fieldOverflow

/-- An action that only computes after a walk does not change what is fetched. -/
theorem Follows.bind_pure {first : Fetch α} {second : α → Fetch β} {kinds : List ArgKind}
    (hfirst : first.Follows kinds) (hsecond : ∀ value, (second value).Follows []) :
    Follows (first >>= second) kinds := by
  have h := hfirst.bind hsecond
  rwa [List.append_nil] at h

theorem follows_nextAs {expected : ArgKind} {read? : Arg → Option α}
    (hread : ∀ arg, (read? arg).isSome = expected.fits arg.kind) :
    Follows (arg (Cursor.nextAs expected read?)) [expected] := by
  intro cursor
  have hdrain := Cursor.drain_singleton_of_nextAs hread cursor
  unfold arg
  rcases hnext : cursor.nextAs expected read? with ⟨fault | value, after⟩ <;> rw [hnext] at hdrain
  · exact .argument hdrain
  · exact .ok hdrain

theorem follows_nextInt : Follows (arg Cursor.nextInt) [.int] :=
  follows_nextAs Arg.isSome_asInt?

theorem follows_nextUint : Follows (arg Cursor.nextUint) [.uint] :=
  follows_nextAs Arg.isSome_asUint?

theorem follows_nextDouble : Follows (arg Cursor.nextDouble) [.double] :=
  follows_nextAs Arg.isSome_asDouble?

theorem follows_nextPtr : Follows (arg Cursor.nextPtr) [.ptr] :=
  follows_nextAs Arg.isSome_asPtr?

theorem follows_nextStr : Follows (arg Cursor.nextStr) [.str] :=
  follows_nextAs Arg.isSome_asStr?

end Fetch

open Fetch

/-! ## One directive -/

/-- The slots of the `*` arguments of a directive. -/
def Directive.starSlots (directive : Directive) : List Slot :=
  Slot.ofExtent directive.width ++ Slot.ofExtent directive.precision

namespace Layout

theorem checkField_eq (value : Nat) :
    checkField value = .ok value ∨ checkField value = .error (.fieldOverflow value) := by
  unfold checkField
  split
  · exact .inr rfl
  · exact .inl rfl

theorem follows_checkField (value : Nat) :
    Follows (ExceptT.mk (pure (checkField value)) : Fetch Nat) [] := by
  intro cursor
  change Walked [] cursor (checkField value, cursor)
  rcases checkField_eq value with h | h <;> rw [h]
  · exact .ok rfl
  · exact .fieldOverflow

theorem follows_checkPrecision (precision : Option Nat) :
    Follows (ExceptT.mk (pure (precision.mapM checkField)) : Fetch (Option Nat)) [] := by
  intro cursor
  change Walked [] cursor (precision.mapM checkField, cursor)
  cases precision with
  | none => exact .ok rfl
  | some value =>
    rcases checkField_eq value with h | h
    · have hok : (some value).mapM checkField = .ok (some value) := by
        simp only [Option.mapM_some, h]
        rfl
      rw [hok]
      exact .ok rfl
    · have herror : (some value).mapM checkField = .error (.fieldOverflow value) := by
        simp only [Option.mapM_some, h]
        rfl
      rw [herror]
      exact .fieldOverflow

theorem follows_fetchWidth (flags : Flags) (width : Extent) :
    (fetchWidth flags width).Follows ((Slot.ofExtent width).map Slot.kind) := by
  cases width with
  | absent => exact follows_pure _
  | fixed width => exact follows_pure _
  | star =>
    refine follows_nextInt.bind_pure fun value ↦ ?_
    dsimp only
    split <;> exact follows_pure _

theorem follows_fetchPrecision (precision : Extent) :
    (fetchPrecision precision).Follows ((Slot.ofExtent precision).map Slot.kind) := by
  cases precision with
  | absent => exact follows_pure _
  | fixed precision => exact follows_pure _
  | star => exact follows_nextInt.bind_pure fun _ ↦ follows_pure _

/-- Laying out a directive fetches its `*` arguments, the width before the precision. -/
theorem follows_resolve (directive : Directive) :
    (resolve directive).Follows (directive.starSlots.map Slot.kind) := by
  rw [Directive.starSlots, List.map_append]
  refine (follows_fetchWidth _ _).bind fun _ ↦ ?_
  refine (follows_fetchPrecision _).bind_pure fun _ ↦ ?_
  refine (follows_checkField _).bind_pure fun _ ↦ ?_
  exact (follows_checkPrecision _).bind_pure fun _ ↦ follows_pure _

end Layout

theorem Slot.kind_ofConversion (directive : Directive) :
    (ofConversion directive).kind = directive.conversion.argKind := by
  unfold ofConversion
  cases directive.conversion.argKind <;> rfl

namespace Directive

theorem map_kind_ofDirective (directive : Directive) :
    (Slot.ofDirective directive).map Slot.kind =
      directive.starSlots.map Slot.kind ++ [directive.conversion.argKind] := by
  rw [Slot.ofDirective, List.map_append, List.map_singleton, Slot.kind_ofConversion, starSlots]

theorem follows_skip {directive : Directive} (hshort : directive.isLongDouble = false)
    (h : directive.conversion.argKind = .uint ∨ directive.conversion.argKind = .ptr ∨
      directive.conversion.argKind = .double) :
    directive.skip.Follows [directive.conversion.argKind] := by
  unfold skip
  rw [hshort]
  rcases h with h | h | h <;> rw [h]
  · exact follows_nextUint.bind_pure fun _ ↦ follows_pure _
  · exact follows_nextPtr.bind_pure fun _ ↦ follows_pure _
  · exact follows_nextDouble.bind_pure fun _ ↦ follows_pure _

theorem follows_field? {directive : Directive} {layout : Layout} {field : Fetch Field}
    (h : directive.field? layout = some field) :
    field.Follows [directive.conversion.argKind] := by
  rw [field?] at h
  cases hconversion : directive.conversion <;> rw [hconversion] at h <;> cases h
  case d | i => exact follows_nextInt.bind_pure fun _ ↦ follows_pure _
  case u | x | X => exact follows_nextUint.bind_pure fun _ ↦ follows_pure _
  case c => exact follows_nextInt.bind_pure fun _ ↦ follows_pure _
  case s => exact follows_nextStr.bind_pure fun _ ↦ follows_pure _
  case p => exact follows_nextPtr.bind_pure fun _ ↦ follows_pure _

/-- What is not printed is read over as one of three classes. -/
theorem argKind_of_field?_eq_none {directive : Directive} {layout : Layout}
    (h : directive.field? layout = none) :
    directive.conversion.argKind = .uint ∨ directive.conversion.argKind = .ptr ∨
      directive.conversion.argKind = .double := by
  rw [field?] at h
  cases hconversion : directive.conversion <;> rw [hconversion] at h
  case d | i | u | x | X | c | s | p => cases h
  case o => exact .inl rfl
  case n => exact .inr (.inl rfl)
  all_goals exact .inr (.inr rfl)

theorem renderOwn_of_field? {directive : Directive} {layout : Layout} {action : Fetch Field}
    {field : Field} {cursor after : Cursor} (haction : directive.field? layout = some action)
    (hfield : action cursor = (.ok field, after)) :
    directive.renderOwn layout cursor = (.ok (.shown (layout.bytes field)), after) := by
  rw [renderOwn, haction]
  dsimp only
  rw [run_bind, hfield]
  rfl

/-- After the layout, a directive fetches one argument of its conversion's class. -/
theorem follows_renderOwn {directive : Directive} (hshort : directive.isLongDouble = false)
    (layout : Layout) : (directive.renderOwn layout).Follows [directive.conversion.argKind] := by
  rw [renderOwn]
  cases hfield : directive.field? layout with
  | some field => exact (follows_field? hfield).bind_pure fun _ ↦ follows_pure _
  | none => exact follows_skip hshort (argKind_of_field?_eq_none hfield)

theorem follows_render {directive : Directive} (hshort : directive.isLongDouble = false) :
    directive.render.Follows ((Slot.ofDirective directive).map Slot.kind) := by
  rw [map_kind_ofDirective]
  exact (Layout.follows_resolve directive).bind (follows_renderOwn hshort)

end Directive

/-! ## Whole formats -/

/-- The slots of a list are those of its first segment, which rendering that segment follows, and
then those of the others. -/
theorem ofSegments_cons {segment : Segment} {rest : List Segment} {slots : List Slot}
    (h : Slot.ofSegments (segment :: rest) = .ok slots) :
    ∃ own more, segment.render.Follows (own.map Slot.kind) ∧
      Slot.ofSegments rest = .ok more ∧ slots = own ++ more := by
  cases segment with
  | literal bytes => exact ⟨[], slots, follows_pure _, h, rfl⟩
  | percent => exact ⟨[], slots, follows_pure _, h, rfl⟩
  | directive spec =>
    rw [Slot.ofSegments] at h
    split at h
    · cases h
    · rename_i hshort
      cases hrest : Slot.ofSegments rest with
      | error error =>
        rw [hrest] at h
        cases h
      | ok more =>
        rw [hrest] at h
        cases h
        exact ⟨_, more, Directive.follows_render (Bool.not_eq_true _ ▸ hshort), rfl, rfl⟩

/-- Rendering drains the cursor along the planned slots. -/
theorem walked_render {segments : List Segment} {slots : List Slot}
    (hslots : Slot.ofSegments segments = .ok slots) (cursor : Cursor) :
    Walked (slots.map Slot.kind) cursor
      ((render segments cursor).result, (render segments cursor).cursor) := by
  induction segments generalizing slots cursor with
  | nil =>
    cases hslots
    exact .ok rfl
  | cons segment rest ih =>
    obtain ⟨own, more, hfollows, hrest, rfl⟩ := ofSegments_cons hslots
    rw [render, List.map_append]
    have hsegment := hfollows cursor
    generalize segment.render cursor = outcome at hsegment ⊢
    cases hsegment with
    | argument h => exact .argument (by rw [Cursor.drain_append, h])
    | fieldOverflow => exact .fieldOverflow
    | @ok piece after h =>
      have hdrain : cursor.drain (own.map Slot.kind ++ more.map Slot.kind) =
          after.drain (more.map Slot.kind) := by
        rw [Cursor.drain_append, h]
      have hwalked := ih hrest after
      simp only [Rendering.prepend]
      generalize (render rest after).result = result at hwalked ⊢
      cases hwalked with
      | ok h => exact .ok (hdrain.trans h)
      | argument h => exact .argument (hdrain.trans h)
      | fieldOverflow => exact .fieldOverflow

/-! ## Collected arguments -/

namespace Slot

theorem kind_fetch (slot : Slot) (previous : Option Arg) (list : VaList) :
    (slot.fetch previous list).1.kind = slot.kind := by
  cases slot <;> rfl

theorem map_kind_collectAfter (slots : List Slot) (previous : Option Arg) (list : VaList) :
    (collectAfter previous slots list).map Arg.kind = slots.map kind := by
  induction slots generalizing previous list with
  | nil => rfl
  | cons slot rest ih => rw [collectAfter, List.map_cons, List.map_cons, kind_fetch, ih]

/-- Collection fetches one argument of the right class for each slot. -/
theorem map_kind_collect (slots : List Slot) (list : VaList) :
    (collect slots list).map Arg.kind = slots.map kind :=
  map_kind_collectAfter slots none list

theorem length_collect (slots : List Slot) (list : VaList) :
    (collect slots list).length = slots.length := by
  have h := congrArg List.length (map_kind_collect slots list)
  rwa [List.length_map, List.length_map] at h

/-- Draining what was collected takes all of it. -/
theorem drain_collect (slots : List Slot) (list : VaList) :
    (Cursor.ofArgs (collect slots list)).drain (slots.map kind) = (none, ⟨slots.length, []⟩) := by
  have h := Cursor.drain_of_map_kind (collect slots list) [] 0
  rwa [List.append_nil, map_kind_collect, length_collect, Nat.zero_add] at h

end Slot

/-- What a call renders from typed arguments is what rendering them from a fresh cursor writes. -/
theorem fst_renderCollected (segments : List Segment) (args : List Arg) (session : Session) :
    (session.renderCollected segments args).1 =
      (render segments (Cursor.ofArgs args)).result.map
        fun _ ↦ (render segments (Cursor.ofArgs args)).written := by
  unfold Session.renderCollected
  dsimp only
  cases (render segments (Cursor.ofArgs args)).result <;> rfl

/-- A planned format rendered against the arguments collected along its plan, whatever the C
argument list holds, either fetches every one of them and no more or refuses a field: no argument is
missing or of the wrong class, and no long double comes up. -/
theorem render_collect_exhausts {format : Bytes} {slots : List Slot}
    (hslots : Slot.ofSegments (Segment.ofFormat format) = .ok slots) (list : VaList)
    (session : Session) :
    let segments := Segment.ofFormat format
    let args := Slot.collect slots list
    let rendering := render segments (Cursor.ofArgs args)
    (∀ error, rendering.result = .error error → ∃ value, error = .fieldOverflow value) ∧
      (∀ skipped, rendering.result = .ok skipped →
        rendering.cursor.position = slots.length ∧ rendering.cursor.remaining = 0) ∧
      ∀ error, (session.renderCollected segments args).1 = .error error →
        ∃ value, error = .fieldOverflow value := by
  intro segments args rendering
  have hwalked := walked_render hslots (Cursor.ofArgs args)
  change Walked _ _ (rendering.result, rendering.cursor) at hwalked
  have herror : ∀ error, rendering.result = .error error →
      ∃ value, error = .fieldOverflow value := by
    intro error h
    rw [h] at hwalked
    cases hwalked with
    | fieldOverflow => exact ⟨_, rfl⟩
    | argument hdrain =>
      rw [Slot.drain_collect] at hdrain
      cases hdrain
  refine ⟨herror, ?_, ?_⟩
  · intro skipped h
    rw [h] at hwalked
    cases hwalked with | ok hdrain => ?_
    rw [Slot.drain_collect, Prod.mk.injEq] at hdrain
    rw [← hdrain.2]
    exact ⟨rfl, rfl⟩
  · intro error h
    rw [fst_renderCollected] at h
    change rendering.result.map _ = _ at h
    cases hresult : rendering.result with
    | ok skipped =>
      rw [hresult] at h
      cases h
    | error found =>
      rw [hresult] at h
      cases h
      exact herror _ hresult

/-- A format with both stars, every class of argument and an escape, and a list that runs out before
its last argument. -/
theorem render_collect_exhausts_stars :
    let format := Bytes.ofAscii
      ['%', '-', '*', '.', '*', 's', '|', '%', 'h', 'd', '%', '%', '%', 'p', '%', 'g', '%', 'l', 'o']
    let slots := [Slot.int, .int, .str .previousArg, .int, .ptr, .double, .uint]
    let list : VaList :=
      ⟨[.number 5, .number 2, .address (Bytes.ofAscii ['E', '1', 'M', '1']), .number 70000], []⟩
    let rendering := render (Segment.ofFormat format) (Cursor.ofArgs (Slot.collect slots list))
    Slot.ofSegments (Segment.ofFormat format) = .ok slots ∧
      rendering.result = .ok [.g, .o] ∧
      rendering.cursor.position = 7 ∧ rendering.cursor.remaining = 0 := by
  intro format slots list rendering
  have hslots : Slot.ofSegments (Segment.ofFormat format) = .ok slots := by decide +kernel
  have hresult : rendering.result = .ok [.g, .o] := by decide +kernel
  exact ⟨hslots, hresult, (render_collect_exhausts hslots list {}).2.1 _ hresult⟩

end StubLibc.Format
