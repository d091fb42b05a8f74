import Mathlib.Data.List.Forall2
import StubLibc.Proofs.Format.Agreement

/-!
# Two runs of a format

Two argument lists that differ may still be rendered alike.  An action runs in lockstep along a
list of relations when, from one position of two lists whose next arguments are in these relations,
both runs fail alike, or both give related values and stop at one position, with the rest of the
lists related as before.  Segments that run in lockstep make up a format that does.
-/

namespace StubLibc

/-- Two argument lists related place by place, as far as the relations go.  Where they go further
than the arguments, the lists are equally long. -/
inductive Arg.Along : List (Arg → Arg → Prop) → List Arg → List Arg → Prop
  | done (args others : List Arg) : Along [] args others
  | ended (relations : List (Arg → Arg → Prop)) : Along relations [] []
  | next {relation : Arg → Arg → Prop} {relations : List (Arg → Arg → Prop)} {arg other : Arg}
      {args others : List Arg} (h : relation arg other) (hrest : Along relations args others) :
    Along (relation :: relations) (arg :: args) (other :: others)

theorem Arg.along_of_getElem? {relations : List (Arg → Arg → Prop)} {args others : List Arg}
    (hlength : args.length = others.length)
    (h : ∀ (i : Nat) (relation : Arg → Arg → Prop) (arg other : Arg),
      relations[i]? = some relation → args[i]? = some arg → others[i]? = some other →
        relation arg other) : Along relations args others := by
  induction relations generalizing args others with
  | nil => exact .done args others
  | cons relation relations ih =>
    cases args with
    | nil =>
      rw [List.length_nil, eq_comm, List.length_eq_zero_iff] at hlength
      rw [hlength]
      exact .ended _
    | cons arg args =>
      cases others with
      | nil => cases hlength
      | cons other others =>
        apply Along.next (h 0 relation arg other rfl rfl rfl)
        exact ih (Nat.succ.inj hlength) fun i ↦ h (i + 1)

/-- Where the relations hold of equal arguments, only the arguments in front have to be equal. -/
theorem Arg.along_append {relations : List (Arg → Arg → Prop)} {own : List Arg}
    (hlength : own.length = relations.length)
    (hrefl : ∀ relation ∈ relations, ∀ arg, relation arg arg) (tail others : List Arg) :
    Along relations (own ++ tail) (own ++ others) := by
  induction relations generalizing own with
  | nil => exact .done _ _
  | cons relation relations ih =>
    obtain ⟨arg, own, rfl⟩ := List.exists_cons_of_length_eq_add_one hlength
    rw [List.forall_mem_cons] at hrefl
    exact .next (hrefl.1 arg) (ih (Nat.succ.inj hlength) hrefl.2)

namespace Format

namespace Fetch

variable {α β : Type} {relations more : List (Arg → Arg → Prop)}

/-- How two runs end in lockstep. -/
inductive Alike (values : α → α → Prop) (more : List (Arg → Arg → Prop)) :
    Except FormatError α × Cursor → Except FormatError α × Cursor → Prop
  | ok {value other : α} {args others : List Arg} (position : Nat) (h : values value other)
      (hrest : Arg.Along more args others) :
    Alike values more (.ok value, ⟨position, args⟩) (.ok other, ⟨position, others⟩)
  | error (error : FormatError) (cursor other : Cursor) :
    Alike values more (.error error, cursor) (.error error, other)

theorem Alike.fst_eq {outcome ending : Except FormatError α × Cursor}
    (h : Alike Eq more outcome ending) : outcome.1 = ending.1 := by
  cases h with
  | ok _ hvalue => exact congrArg Except.ok hvalue
  | error => rfl

/-- Wherever the arguments in front are in the relations, two actions end alike. -/
def Lockstep (relations : List (Arg → Arg → Prop)) (first second : Fetch α)
    (values : α → α → Prop) : Prop :=
  ∀ more position args others, Arg.Along (relations ++ more) args others →
    Alike values more (first ⟨position, args⟩) (second ⟨position, others⟩)

theorem lockstep_pure {values : α → α → Prop} {value other : α} (h : values value other) :
    Lockstep [] (pure value) (pure other) values :=
  fun _ position _ _ hargs ↦ .ok position h hargs

/-- A result that is there without a fetch is the same in both runs. -/
theorem lockstep_mk (result : Except FormatError α) :
    Lockstep [] (ExceptT.mk (pure result) : Fetch α) (ExceptT.mk (pure result)) Eq := by
  intro more position args others hargs
  change Alike Eq more (result, ⟨position, args⟩) (result, ⟨position, others⟩)
  cases result with
  | error error => exact .error ..
  | ok value => exact .ok position rfl hargs

theorem Lockstep.bind {first second : Fetch α} {rest tail : α → Fetch β} {values : α → α → Prop}
    {results : β → β → Prop} (h : Lockstep relations first second values)
    (hrest : ∀ value other, values value other →
      Lockstep more (rest value) (tail other) results) :
    Lockstep (relations ++ more) (first >>= rest) (second >>= tail) results := by
  intro further position args others hargs
  rw [List.append_assoc] at hargs
  have halike := h _ position _ _ hargs
  rw [run_bind, run_bind]
  generalize first ⟨position, args⟩ = outcome at halike ⊢
  generalize second ⟨position, others⟩ = ending at halike ⊢
  cases halike with
  | ok position hvalues hargs => exact hrest _ _ hvalues further position _ _ hargs
  | error => exact .error ..

/-- Only computing after a step keeps the step. -/
theorem Lockstep.bind_pure {first second : Fetch α} {rest tail : α → Fetch β}
    {values : α → α → Prop} {results : β → β → Prop} (h : Lockstep relations first second values)
    (hrest : ∀ value other, values value other →
      Lockstep [] (rest value) (tail other) results) :
    Lockstep relations (first >>= rest) (second >>= tail) results := by
  have hbind := h.bind hrest
  rwa [List.append_nil] at hbind

/-- A failure that is decided before any fetch keeps the step. -/
theorem Lockstep.refuse {condition : Prop} [Decidable condition] {rest : Fetch α}
    {values : α → α → Prop} (error : FormatError) (h : Lockstep relations rest rest values) :
    Lockstep relations (if condition then throw error >>= fun _ : Unit ↦ rest else rest)
      (if condition then throw error >>= fun _ : Unit ↦ rest else rest) values := by
  by_cases hcondition : condition
  · simp only [if_pos hcondition]
    exact (lockstep_mk (.error error)).bind fun _ _ _ ↦ h
  · simp only [if_neg hcondition]
    exact h

/-- A typed fetch is in step where the reading respects the relation, and where arguments that
cannot be read are of one class. -/
theorem lockstep_nextAs {expected : ArgKind} {read? : Arg → Option α} {values : α → α → Prop}
    {relation : Arg → Arg → Prop}
    (hread : ∀ arg other, relation arg other → Option.Rel values (read? arg) (read? other))
    (hkind : ∀ arg other, relation arg other → read? arg = none → arg.kind = other.kind) :
    Lockstep [relation] (arg (Cursor.nextAs expected read?)) (arg (Cursor.nextAs expected read?))
      values := by
  intro more position args others hargs
  cases hargs with
  | ended => exact .error ..
  | @next _ _ arg other _ _ hrelated hrest =>
    have hvalues := hread arg other hrelated
    have hsame := hkind arg other hrelated
    simp only [Fetch.arg, Cursor.nextAs, Cursor.next_cons]
    generalize read? arg = value at hvalues hsame ⊢
    generalize read? other = found at hvalues ⊢
    cases hvalues with
    | some h => exact .ok _ h hrest
    | none =>
      rw [hsame rfl]
      exact .error ..

theorem lockstep_nextAs_eq (expected : ArgKind) (read? : Arg → Option α) :
    Lockstep [Eq] (arg (Cursor.nextAs expected read?)) (arg (Cursor.nextAs expected read?)) Eq := by
  apply lockstep_nextAs
  · rintro arg _ rfl
    cases read? arg with
    | none => exact .none
    | some value => exact .some rfl
  · rintro arg _ rfl _
    rfl

end Fetch

open Fetch

/-! ## Renderings -/

/-- Two renderings that write the same and fail alike.  Where their cursors stop does not show. -/
structure Rendering.Same (rendering other : Rendering) : Prop where
  written : rendering.written = other.written
  result : rendering.result = other.result

theorem Rendering.Same.prepend {rendering other : Rendering} (h : rendering.Same other)
    (piece : Piece) : (rendering.prepend piece).Same (other.prepend piece) where
  written := congrArg (piece.bytes ++ ·) h.written
  result := congrArg (Except.map (piece.skips ++ ·)) h.result

/-- Where one segment comes out the same in two runs, the rest of the format decides. -/
theorem render_cons_same {segment : Segment} {rest : List Segment} {cursor other : Cursor}
    (hfirst : (segment.render cursor).1 = (segment.render other).1)
    (hrest : ∀ piece, (segment.render cursor).1 = .ok piece →
      (render rest (segment.render cursor).2).Same (render rest (segment.render other).2)) :
    (render (segment :: rest) cursor).Same (render (segment :: rest) other) := by
  rw [render, render]
  generalize segment.render cursor = outcome at hfirst hrest ⊢
  generalize segment.render other = ending at hfirst hrest ⊢
  obtain ⟨result, after⟩ := outcome
  obtain ⟨_, stop⟩ := ending
  cases hfirst
  cases result with
  | error error => exact ⟨rfl, rfl⟩
  | ok piece => exact (hrest piece rfl).prepend piece

theorem renderFormat_eq_of_same {format : Bytes} {args others : List Arg}
    (h : (render (Segment.ofFormat format) (Cursor.ofArgs args)).Same
      (render (Segment.ofFormat format) (Cursor.ofArgs others))) :
    renderFormat format args = renderFormat format others := by
  unfold renderFormat
  dsimp only
  rw [h.written, h.result]

/-- Segments in lockstep write the same and fail alike. -/
theorem render_same_of_lockstep {segments : List Segment}
    {relations : List (List (Arg → Arg → Prop))}
    (h : List.Forall₂ (fun segment own ↦ Lockstep own segment.render segment.render Eq) segments
      relations)
    {args others : List Arg} (hargs : Arg.Along relations.flatten args others) (position : Nat) :
    (render segments ⟨position, args⟩).Same (render segments ⟨position, others⟩) := by
  induction h generalizing args others position with
  | nil => exact ⟨rfl, rfl⟩
  | @cons segment own rest more hsegment _ ih =>
    rw [List.flatten_cons] at hargs
    have halike := hsegment _ position _ _ hargs
    refine render_cons_same halike.fst_eq fun piece hpiece ↦ ?_
    generalize segment.render ⟨position, args⟩ = outcome at halike hpiece ⊢
    generalize segment.render ⟨position, others⟩ = ending at halike ⊢
    cases halike with
    | error => cases hpiece
    | ok position _ hrest => exact ih hrest position

end Format

end StubLibc
