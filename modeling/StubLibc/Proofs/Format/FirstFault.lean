import StubLibc.Proofs.Format.Outcomes
import StubLibc.Proofs.Format.Significant

/-!
# Arguments that do not fit the plan

A planned format without a wide field can only fail at an argument.  It is rendered exactly when no
argument diverges from the plan, and looks at no argument behind the planned ones.  Otherwise it is
refused at the first divergence: for the length of the list if the argument is missing there, else
for its class.
-/

namespace StubLibc.Format

open ArgKind (Diverges)
open Cursor (FirstDiverges)
open Fetch (Lockstep)

variable {segments : List Segment} {slots : List Slot} {cursor after : Cursor} {fault : ArgFault}
  {format : Bytes} {args : List Arg}

/-! ## Planned segments -/

/-- Planned segments that have no wide field are rendered if their arguments are there. -/
theorem exists_render_eq_ok (hslots : Slot.ofSegments segments = .ok slots)
    (hfields : ¬ HasWideField segments cursor.pending)
    (h : cursor.drain (slots.map Slot.kind) = (none, after)) :
    ∃ skipped, (render segments cursor).result = .ok skipped := by
  rcases (walked_render hslots cursor).of_drain h with ⟨skipped, hok⟩ | ⟨value, stop, hfield⟩
  · exact ⟨skipped, congrArg Prod.fst hok⟩
  · exact absurd (hasWideField_of_render_eq_error (congrArg Prod.fst hfield)) hfields

/-- Planned segments that have no wide field fail as the fetch of their arguments does. -/
theorem render_eq_error (hslots : Slot.ofSegments segments = .ok slots)
    (hfields : ¬ HasWideField segments cursor.pending)
    (h : cursor.drain (slots.map Slot.kind) = (some fault, after)) :
    (render segments cursor).result = .error (.argument fault) := by
  rcases (walked_render hslots cursor).of_drain_fault h with hfault | ⟨value, stop, hfield⟩
  · exact congrArg Prod.fst hfault
  · exact absurd (hasWideField_of_render_eq_error (congrArg Prod.fst hfield)) hfields

/-- Behind the arguments of its segments a rendering looks at nothing. -/
theorem render_append_same {own : List Arg}
    (hown : own.length = (segments.flatMap Segment.slots).length) (tail others : List Arg)
    (position : Nat) :
    (render segments ⟨position, own ++ tail⟩).Same (render segments ⟨position, own ++ others⟩) := by
  have hsegments : List.Forall₂
      (fun segment own ↦ Lockstep own segment.render segment.render Eq) segments
      (segments.map fun segment ↦ segment.significant.map Arg.Shares) :=
    List.forall₂_map_right_iff.mpr (List.forall₂_same.mpr fun segment _ ↦ segment.lockstep_render)
  have hlength : own.length = (segments.flatMap Segment.significant).length := by
    rw [hown, List.length_flatMap, List.length_flatMap]
    exact congrArg (fun lengths ↦ (segments.map lengths).sum)
      (funext fun segment ↦ segment.length_significant.symm)
  refine render_same_of_lockstep hsegments ?_ position
  rw [← List.flatMap_def, ← List.map_flatMap]
  exact Arg.along_shares_append hlength tail others

/-! ## Planned formats -/

section Planned

variable (hslots : Slot.ofSegments (Segment.ofFormat format) = .ok slots)
  (hfields : ¬ HasWideField (Segment.ofFormat format) args)

include hslots hfields

theorem exists_renderFormat_eq_ok_iff_not_diverges :
    (∃ rendering, renderFormat format args = .ok rendering) ↔
      ∀ index, ¬ Diverges (slots.map Slot.kind) args index := by
  have hdrains : (∃ after, (Cursor.ofArgs args).drain (slots.map Slot.kind) = (none, after)) ↔
      ∀ index, ¬ Diverges (slots.map Slot.kind) args index := Cursor.exists_drain_iff
  rw [exists_renderFormat_eq_ok_iff, ← hdrains]
  rcases hdrain : (Cursor.ofArgs args).drain (slots.map Slot.kind) with ⟨_ | fault, after⟩
  · exact iff_of_true (exists_render_eq_ok hslots hfields hdrain) ⟨after, rfl⟩
  · rw [render_eq_error hslots hfields hdrain]
    simp

/-- At a missing argument the failure tells the length of the list, at another one its class. -/
theorem renderFormat_of_firstDiverges {index : Nat}
    (hfirst : FirstDiverges (slots.map Slot.kind) args index) :
    (index = args.length →
      renderFormat format args = .error (.argument (.exhausted index args.length))) ∧
    (index ≠ args.length → ∃ slot arg, slots[index]? = some slot ∧ args[index]? = some arg ∧
      renderFormat format args = .error (.argument (.kindMismatch index slot.kind arg.kind))) := by
  rcases hdrain : (Cursor.ofArgs args).drain (slots.map Slot.kind) with ⟨_ | fault, after⟩
  · exact absurd hfirst.diverges (Cursor.not_diverges_of_drain hdrain index)
  have herror := renderFormat_eq_error_iff.mpr (render_eq_error hslots hfields hdrain)
  obtain ⟨found, hfound, hfault⟩ := Cursor.exists_faultsAt_of_drain hdrain
  obtain rfl := hfirst.eq hfound
  cases hfault with
  | missing hfew =>
    -- Only here does the index reach the end of the arguments.
    rw [Cursor.remaining_ofArgs, Cursor.position_ofArgs, Nat.zero_add] at herror
    exact ⟨fun _ ↦ herror, fun hne ↦ absurd rfl hne⟩
  | unfit hkind harg hunfit =>
    rw [List.getElem?_map, Option.map_eq_some_iff] at hkind
    obtain ⟨slot, hslot, rfl⟩ := hkind
    rw [Cursor.position_ofArgs, Nat.zero_add] at herror
    obtain ⟨hlt, -⟩ := List.getElem?_eq_some_iff.mp harg
    exact ⟨fun heq ↦ absurd heq (Nat.ne_of_lt hlt), fun _ ↦ ⟨slot, _, hslot, harg, herror⟩⟩

end Planned

/-- Arguments behind those that do not diverge from the plan play no part. -/
theorem renderFormat_take_append (hslots : Slot.ofSegments (Segment.ofFormat format) = .ok slots)
    (hnone : ∀ index, ¬ Diverges (slots.map Slot.kind) args index) (extra : List Arg) :
    renderFormat format (args.take slots.length ++ extra) = renderFormat format args := by
  have hdrains : ∃ after, (Cursor.ofArgs args).drain (slots.map Slot.kind) = (none, after) :=
    Cursor.exists_drain_iff.mpr hnone
  obtain ⟨after, hdrain⟩ := hdrains
  have hlength := (Cursor.eq_advance_of_drain hdrain).1
  rw [List.length_map, Cursor.remaining_ofArgs] at hlength
  have hown : (args.take slots.length).length =
      ((Segment.ofFormat format).flatMap Segment.slots).length := by
    rw [List.length_take_of_le hlength, (of_ofSegments_eq_ok hslots).2]
  have hsame := render_append_same hown extra (args.drop slots.length) 0
  rw [List.take_append_drop] at hsame
  exact renderFormat_eq_of_same hsame

/-- A planned format without a wide field is rendered exactly when no argument diverges from the
plan, and then the arguments behind the planned ones play no part.  Otherwise the failure tells the
first divergence. -/
theorem renderFormat_first_divergence
    (hslots : Slot.ofSegments (Segment.ofFormat format) = .ok slots)
    (hfields : ¬ HasWideField (Segment.ofFormat format) args) :
    let kinds := slots.map Slot.kind
    ((∃ rendering, renderFormat format args = .ok rendering) ↔
      ∀ index, ¬ Diverges kinds args index) ∧
    ((∀ index, ¬ Diverges kinds args index) →
      ∀ extra, renderFormat format (args.take slots.length ++ extra) = renderFormat format args) ∧
    ∀ index, FirstDiverges kinds args index →
      (index = args.length →
        renderFormat format args = .error (.argument (.exhausted index args.length))) ∧
      (index ≠ args.length → ∃ slot arg, slots[index]? = some slot ∧ args[index]? = some arg ∧
        renderFormat format args =
          .error (.argument (.kindMismatch index slot.kind arg.kind))) :=
  ⟨exists_renderFormat_eq_ok_iff_not_diverges hslots hfields, renderFormat_take_append hslots,
    fun _ hfirst ↦ renderFormat_of_firstDiverges hslots hfields hfirst⟩

/-- An unsigned `*` width fits, a double in place of a precision does not, and neither does the
address that comes after it. -/
theorem renderFormat_first_divergence_precision :
    let format := Bytes.ofAscii ['%', '*', 'd', ' ', '%', '.', '*', 's']
    let slots := [Slot.int, .int, .int, .str .previousArg]
    let args : List Arg := [.uint 3, .int 5, .double 0, .ptr 1]
    Slot.ofSegments (Segment.ofFormat format) = .ok slots ∧
      ¬ HasWideField (Segment.ofFormat format) args ∧
      FirstDiverges (slots.map Slot.kind) args 2 ∧ Diverges (slots.map Slot.kind) args 3 ∧
      renderFormat format args = .error (.argument (.kindMismatch 2 .int .double)) := by
  intro format slots args
  have hslots : Slot.ofSegments (Segment.ofFormat format) = .ok slots := by decide +kernel
  have hfields : ¬ HasWideField (Segment.ofFormat format) args := by decide +kernel
  have hfirst : FirstDiverges (slots.map Slot.kind) args 2 := ⟨by decide, by decide⟩
  obtain ⟨slot, arg, hslot, harg, herror⟩ :=
    ((renderFormat_first_divergence hslots hfields).2.2 2 hfirst).2 (by decide)
  cases hslot
  cases harg
  exact ⟨hslots, hfields, hfirst, by decide, herror⟩

end StubLibc.Format
