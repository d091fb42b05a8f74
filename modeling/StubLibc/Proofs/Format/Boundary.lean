import StubLibc.Proofs.Format.Emission
import StubLibc.Proofs.Format.Outcomes

/-!
# Where a rendering stops

A rendering that fails stops at one directive.  What comes before it is in the buffer, the directive
has written nothing, and the cursor is just past the last argument that the directive fetched, which
the failure tells: `Directive.StopsAt` says how far that is for each kind of failure.  The bytes
that the buffer held before play no part.
-/

namespace StubLibc.Format

open Cursor (FirstDiverges)

variable {directive : Directive} {start after : Cursor} {error : FormatError}

/-- How a directive fails, and where that leaves the cursor. -/
inductive Directive.StopsAt (directive : Directive) (start : Cursor) : FormatError → Cursor → Prop
  /-- Past the argument of another class. -/
  | kindMismatch {index : Nat} {slot : Slot} {arg : Arg}
    (hfirst : FirstDiverges ((Slot.ofDirective directive).map Slot.kind) start.pending index)
    (hslot : (Slot.ofDirective directive)[index]? = some slot)
    (harg : start.pending[index]? = some arg) (hunfit : slot.kind.fits arg.kind = false) :
    StopsAt directive start
      (.argument (.kindMismatch (start.position + index) slot.kind arg.kind))
      (start.advance (index + 1))
  /-- At the end of the arguments. -/
  | exhausted
    (hfirst : FirstDiverges ((Slot.ofDirective directive).map Slot.kind) start.pending
      start.remaining)
    (hfew : start.remaining < (Slot.ofDirective directive).length) :
    StopsAt directive start
      (.argument (.exhausted (start.position + start.remaining) (start.position + start.remaining)))
      (start.advance start.remaining)
  /-- Past the `*` arguments. -/
  | fieldOverflow {value : Nat} (hwide : directive.IsWide start.pending) (hvalue : maxField < value)
    (hstars : directive.starSlots.length ≤ start.remaining) :
    StopsAt directive start (.fieldOverflow value) (start.advance directive.starSlots.length)
  /-- Past the `*` arguments. -/
  | longDouble (hnarrow : ¬ directive.IsWide start.pending) (hlong : directive.isLongDouble = true)
    (hstars : directive.starSlots.length ≤ start.remaining) :
    StopsAt directive start (.longDouble directive.conversion)
      (start.advance directive.starSlots.length)

/-- The `*` arguments of a directive, fetched. -/
theorem Directive.eq_advance_of_drain_starSlots
    (h : start.drain (directive.starSlots.map Slot.kind) = (none, after)) :
    directive.starSlots.length ≤ start.remaining ∧
      after = start.advance directive.starSlots.length := by
  have hadvance := Cursor.eq_advance_of_drain h
  rwa [List.length_map] at hadvance

/-- A directive that fails stops where its failure tells. -/
theorem Directive.stopsAt_of_render (h : directive.render start = (.error error, after)) :
    directive.StopsAt start error after := by
  have hcomes := directive.comesOut_render start
  rw [h] at hcomes
  cases hcomes with
  | argument hdrain =>
    obtain ⟨index, hfirst, hfault⟩ := Cursor.exists_faultsAt_of_drain hdrain
    cases hfault with
    | unfit hkind harg hunfit =>
      rw [List.getElem?_map, Option.map_eq_some_iff] at hkind
      obtain ⟨slot, hslot, rfl⟩ := hkind
      exact .kindMismatch hfirst hslot harg hunfit
    | missing hfew =>
      rw [List.length_map] at hfew
      exact .exhausted hfirst hfew
  | fieldOverflow hwide hvalue hdrain =>
    obtain ⟨hstars, rfl⟩ := eq_advance_of_drain_starSlots hdrain
    exact .fieldOverflow hwide hvalue hstars
  | longDouble hnarrow hlong hdrain =>
    obtain ⟨hstars, rfl⟩ := eq_advance_of_drain_starSlots hdrain
    exact .longDouble hnarrow hlong hstars

/-- A directive that fails alone writes nothing. -/
theorem emit_of_render_eq_error (h : directive.render start = (.error error, after))
    (buffer : Bytes) :
    emit [.directive directive] ⟨start, buffer⟩ = (.error error, ⟨after, buffer⟩) := by
  have hwrites := (Segment.directive directive).writes_emit ⟨start, buffer⟩
  dsimp only at hwrites
  rw [Segment.render, h] at hwrites
  rw [emit_cons, Emit.run_bind, hwrites]

/-- Rendering only adds to a buffer, whatever it holds.  Where it fails it has rendered some
segments, and then a directive fails that leaves the buffer alone and the cursor just past the last
argument that it fetched. -/
theorem emit_stops_at_directive (segments : List Segment) (start : Cursor) :
    (∃ result stop written, ∀ buffer,
      emit segments ⟨start, buffer⟩ = (result, ⟨stop, buffer ++ written⟩)) ∧
    ∀ buffer error stop, emit segments ⟨start, buffer⟩ = (.error error, stop) →
      ∃ before directive after skipped reached,
        segments = before ++ .directive directive :: after ∧
        emit before ⟨start, buffer⟩ = (.ok skipped, reached) ∧
        emit [.directive directive] reached = (.error error, stop) ∧
        stop.buffer = reached.buffer ∧
        directive.StopsAt reached.cursor error stop.cursor := by
  constructor
  · exact ⟨(render segments start).result, (render segments start).cursor,
      (render segments start).written, fun buffer ↦ emit_eq segments ⟨start, buffer⟩⟩
  · intro buffer error stop h
    rw [emit_eq, Prod.mk.injEq] at h
    obtain ⟨hresult, rfl⟩ := h
    obtain ⟨before, directive, after, skipped, hsegments, hbefore, hwritten, hdirective⟩ :=
      exists_of_render_eq_error hresult
    refine ⟨before, directive, after, skipped,
      ⟨(render before start).cursor, buffer ++ (render before start).written⟩, hsegments, ?_, ?_, ?_,
      Directive.stopsAt_of_render hdirective⟩
    · rw [emit_eq, hbefore]
    · rw [emit_of_render_eq_error hdirective, hwritten]
    · rw [hwritten]

/-- A `*` precision finds an address, in the middle of an argument list and of a buffer. -/
theorem emit_stops_at_directive_precision :
    let segments := Segment.ofFormat
      (Bytes.ofAscii ['n', '=', '%', 'd', '%', '5', '.', '*', 's', '!', '%', 'c'])
    let start : Cursor := ⟨2, [.uint 7, .ptr 1, .str none, .int 33]⟩
    let stop : Progress := ⟨⟨4, [.str none, .int 33]⟩, Bytes.ofAscii ['>', 'n', '=', '7']⟩
    let error := FormatError.argument (.kindMismatch 3 .int .ptr)
    emit segments ⟨start, Bytes.ofAscii ['>']⟩ = (.error error, stop) ∧
      ∃ before directive after skipped reached,
        segments = before ++ .directive directive :: after ∧
        emit before ⟨start, Bytes.ofAscii ['>']⟩ = (.ok skipped, reached) ∧
        emit [.directive directive] reached = (.error error, stop) ∧
        stop.buffer = reached.buffer ∧
        directive.StopsAt reached.cursor error stop.cursor := by
  intro segments start stop error
  have hrun : emit segments ⟨start, Bytes.ofAscii ['>']⟩ = (.error error, stop) := by
    change (_ : Except FormatError (List Conversion) × Progress) = _
    decide +kernel
  exact ⟨hrun, (emit_stops_at_directive segments start).2 _ _ _ hrun⟩

end StubLibc.Format
