import StubLibc.Format.Buffer
import StubLibc.Proofs.Format.Skipped

/-!
# What a rendering writes

A directive writes only after its last fetch, so a directive that fails has written nothing, and
what the parts that it writes come to is the text that it contributes.  Rendering into a buffer
therefore puts the rendered bytes behind those that are there, and these play no part in it.
-/

namespace StubLibc.Format

namespace Emit

variable {α β : Type}

theorem run_bind (first : Emit α) (second : α → Emit β) (progress : Progress) :
    (first >>= second) progress =
      match first progress with
      | (.ok value, after) => second value after
      | (.error error, after) => (.error error, after) := by
  simp only [bind, ExceptT.bind, ExceptT.mk, StateT.bind]
  rcases first progress with ⟨error | value, after⟩ <;> rfl

/-! ## Bytes -/

/-- The action does nothing but write the bytes. -/
def Appends (write : Emit Unit) (bytes : Bytes) : Prop :=
  ∀ progress : Progress, write progress = (.ok (), ⟨progress.cursor, progress.buffer ++ bytes⟩)

theorem appends_put (bytes : Bytes) : Appends (put bytes) bytes :=
  fun _ ↦ rfl

theorem appends_pad (byte : UInt8) (count : Nat) :
    Appends (pad byte count) (List.replicate count byte) :=
  appends_put _

theorem Appends.bind {first second : Emit Unit} {bytes more : Bytes} (hfirst : first.Appends bytes)
    (hsecond : second.Appends more) : Appends (first >>= fun _ ↦ second) (bytes ++ more) := by
  intro progress
  rw [run_bind, hfirst]
  dsimp only
  rw [hsecond, List.append_assoc]

/-! ## Pieces -/

/-- The action fetches what the piece fetches, and then writes the piece; where the piece fails, it
fails there and writes nothing. -/
def Writes (action : Emit (List Conversion)) (piece : Fetch Piece) : Prop :=
  ∀ progress : Progress, action progress =
    match piece progress.cursor with
    | (.ok piece, after) => (.ok piece.skips, ⟨after, progress.buffer ++ piece.bytes⟩)
    | (.error error, after) => (.error error, ⟨after, progress.buffer⟩)

theorem writes_shown {write : Emit Unit} {bytes : Bytes} (h : write.Appends bytes) :
    Writes (shown write) (pure (.shown bytes)) := by
  intro progress
  rw [shown, run_bind, h]
  rfl

/-- A fetch in front of what is written. -/
theorem writes_fetch {action : Fetch α} {write : α → Emit (List Conversion)}
    {piece : α → Fetch Piece} (h : ∀ value, (write value).Writes (piece value)) :
    Writes (fetch action >>= write) (action >>= piece) := by
  intro progress
  rw [run_bind, Fetch.run_bind, fetch]
  rcases action progress.cursor with ⟨error | value, after⟩
  · rfl
  · exact h value ⟨after, progress.buffer⟩

end Emit

open Emit

namespace Layout

theorem appends_text (layout : Layout) (body : Bytes) :
    (layout.emitField (.text body)).Appends (layout.text body) := by
  simp only [emitField, writer, textWriter, Counting.plain, Id.run, bind, pure, text]
  split
  · exact (appends_put _).bind (appends_pad _ _)
  · exact (appends_pad _ _).bind (appends_put _)

/-- The parts of a number make up its text. -/
theorem appends_number (layout : Layout) (sign mark digits : Bytes) :
    (layout.emitField (.number sign mark digits)).Appends (layout.number sign mark digits) := by
  simp only [emitField, writer, numberWriter, Counting.plain, Id.run, bind, pure, number]
  generalize layout.shownDigits digits = shown
  have hplaces : shown.length ≤ max (layout.precision.getD 0) shown.length := Nat.le_max_right _ _
  generalize max (layout.precision.getD 0) shown.length = places at hplaces ⊢
  generalize layout.width - (sign.length + mark.length + places) = fill
  split
  · rw [← List.append_assoc, List.append_assoc, List.append_assoc, List.append_assoc]
    exact (appends_put _).bind ((appends_put _).bind ((appends_pad _ _).bind
      ((appends_put _).bind (appends_pad _ _))))
  split
  · -- The fill and the zeros of the precision are written as one run of zeros.
    rw [← List.append_assoc, List.append_assoc _ (List.replicate fill zero),
      List.replicate_append_replicate, ← Nat.add_sub_assoc hplaces, List.append_assoc,
      List.append_assoc]
    exact (appends_put _).bind ((appends_put _).bind ((appends_pad _ _).bind (appends_put _)))
  · rw [List.append_assoc, List.append_assoc]
    exact (appends_pad _ _).bind ((appends_put _).bind ((appends_put _).bind
      ((appends_pad _ _).bind (appends_put _))))

theorem appends_emitField (layout : Layout) (field : Field) :
    (layout.emitField field).Appends (layout.bytes field) := by
  cases field with
  | text body => exact layout.appends_text body
  | number sign mark digits => exact layout.appends_number sign mark digits

end Layout

namespace Directive

theorem writes_fetch_skip (directive : Directive) :
    Writes (Piece.skips <$> fetch directive.skip) directive.skip := by
  intro progress
  rw [map_eq_pure_bind, run_bind, fetch]
  rcases hskip : directive.skip progress.cursor with ⟨error | piece, after⟩
  · rfl
  · have hpiece := directive.yields_skip progress.cursor piece after hskip
    cases piece with
    | shown bytes => cases hpiece
    | skipped conversion =>
      dsimp only [Piece.bytes]
      rw [List.append_nil]
      rfl

theorem writes_emitBy (directive : Directive) :
    (directive.emitBy Layout.emitField).Writes directive.render := by
  refine writes_fetch fun layout ↦ ?_
  rw [renderOwn]
  cases directive.field? layout with
  | some action => exact writes_fetch fun field ↦ writes_shown (layout.appends_emitField field)
  | none => exact directive.writes_fetch_skip

end Directive

theorem Segment.writes_emit (segment : Segment) : segment.emit.Writes segment.render := by
  cases segment with
  | literal bytes => exact writes_shown (appends_put bytes)
  | percent => exact writes_shown (appends_put _)
  | directive spec => exact spec.writes_emitBy

/-- Rendering into a buffer is rendering, behind the bytes of the buffer. -/
theorem emit_eq (segments : List Segment) (progress : Progress) :
    emit segments progress =
      ((render segments progress.cursor).result,
        ⟨(render segments progress.cursor).cursor,
          progress.buffer ++ (render segments progress.cursor).written⟩) := by
  induction segments generalizing progress with
  | nil =>
    rw [render, List.append_nil]
    rfl
  | cons segment rest ih =>
    rw [emit_cons, run_bind, segment.writes_emit, render]
    rcases segment.render progress.cursor with ⟨error | piece, after⟩
    · dsimp only
      rw [List.append_nil]
    · dsimp only
      rw [run_bind, ih, Rendering.prepend, List.append_assoc]
      dsimp only
      cases (render rest after).result <;> rfl

end StubLibc.Format
