import StubLibc.Proofs.Format.Emission
import StubLibc.Proofs.Format.Tiling

/-!
# Formats in two parts

Reading a directive ends with its conversion letter and does not look at what follows, so a format
without a `%` that opens nothing has the same segments in front of any other format; only a run at
its end may go on there.  Rendering two formats joined together is therefore rendering one after the
other, from where the first one ended and only if it succeeded.
-/

namespace StubLibc.Format

open Emit Segment

/-- A directive is read alike whatever follows it. -/
theorem Directive.parse?_append_right {text rest : Bytes} {directive : Directive}
    (h : Directive.parse? text = some (directive, rest)) (more : Bytes) :
    Directive.parse? (text ++ more) = some (directive, rest ++ more) := by
  obtain ⟨spelling, rfl, rfl⟩ := Spelling.exists_of_parse? h
  rw [List.append_assoc]
  exact spelling.parse?_append _

/-! ## Writing runs -/

theorem put_nil : put [] = pure () := by
  funext progress
  rw [put, List.append_nil]
  rfl

theorem put_append (bytes more : Bytes) :
    put (bytes ++ more) = put bytes >>= fun _ ↦ put more := by
  funext progress
  rw [run_bind, put, ← List.append_assoc]
  rfl

theorem emit_literal_cons (bytes : Bytes) (segments : List Segment) :
    emit (.literal bytes :: segments) = put bytes >>= fun _ ↦ emit segments := by
  simp [emit_cons, Segment.emit, Segment.emitBy, shown]

/-- The bytes in front of the first `%` are written first. -/
theorem emit_ofFormat (format : Bytes) :
    emit (ofFormat format) = put (format.takeWhile (· ≠ percentByte)) >>= fun _ ↦
      emit (ofFormat (format.dropWhile (· ≠ percentByte))) := by
  cases format with
  | nil =>
    rw [List.takeWhile_nil, put_nil, pure_bind]
    rfl
  | cons first rest =>
    by_cases hfirst : first = percentByte
    · subst hfirst
      rw [List.takeWhile_cons_of_neg (by simp), List.dropWhile_cons_of_neg (by simp), put_nil,
        pure_bind]
    · have hrun := (covers_run hfirst rest).ofFormat_append
      rw [List.cons_append, List.takeWhile_append_dropWhile] at hrun
      rw [hrun, emit_literal_cons, List.takeWhile_cons_of_pos (by simpa using hfirst),
        List.dropWhile_cons_of_pos (by simpa using hfirst)]

/-- A run without `%` is written first, also where the format goes on with it. -/
theorem emit_ofFormat_run {run : Bytes} (hfree : percentByte ∉ run) (format : Bytes) :
    emit (ofFormat (run ++ format)) = put run >>= fun _ ↦ emit (ofFormat format) := by
  have hrun : ∀ byte ∈ run, decide (byte ≠ percentByte) = true := by
    intro byte hbyte
    rw [decide_eq_true_eq]
    rintro rfl
    exact hfree hbyte
  rw [emit_ofFormat, List.takeWhile_append_of_pos hrun, List.dropWhile_append_of_pos hrun,
    put_append, bind_assoc, emit_ofFormat format]

/-! ## Joining formats -/

/-- Segments that are not a lone `%` are rendered alike in front of more of the format. -/
theorem emit_append_of_tiles {format : Bytes} {segments : List Segment}
    {pieces : List Bytes} (h : Tiles format segments pieces)
    (hcomplete : .literal [percentByte] ∉ segments) (more : Bytes) :
    emit (ofFormat (format ++ more)) = (do
      let skipped ← emit segments
      let further ← emit (ofFormat more)
      pure (skipped ++ further)) := by
  induction h with
  | nil => simp [emit, emitBy]
  | cons hcovers _ ih =>
    rw [List.mem_cons, not_or] at hcomplete
    have ih := ih hcomplete.2
    cases hcovers with
    | run _ hfree _ =>
      -- At the seam this run may grow, so it is not the first segment of the joined format.
      rw [List.append_assoc, emit_ofFormat_run hfree, ih, emit_literal_cons, bind_assoc]
    | lone _ => exact absurd rfl hcomplete.1
    | percent =>
      rw [List.append_assoc, List.cons_append, List.singleton_append, ofFormat_percent, emit_cons,
        ih, emit_cons]
      simp only [bind_assoc, pure_bind, List.append_assoc]
    | directive hparse =>
      have hparse := Directive.parse?_append_right hparse more
      rw [List.cons_append, List.cons_append, ofFormat_directive hparse, emit_cons, ih,
        emit_cons]
      simp only [bind_assoc, pure_bind, List.append_assoc]

/-- Where every `%` of a format belongs to `%%` or to a whole directive, rendering the format with
another one behind it is rendering the two in turn: the second goes on with the cursor and the
buffer of the first, the conversions read over are joined, and either one's failure is the failure
of the whole. -/
theorem emit_ofFormat_append {first : Bytes}
    (hcomplete : .literal [percentByte] ∉ ofFormat first) (second : Bytes) (start : Progress) :
    emit (ofFormat (first ++ second)) start =
      (do
        let skipped ← emit (ofFormat first)
        let more ← emit (ofFormat second)
        pure (skipped ++ more) : Emit (List Conversion)) start := by
  obtain ⟨pieces, htiles⟩ := exists_tiles first
  rw [emit_append_of_tiles htiles hcomplete]

/-- A run that ends one format and goes on in the next with the letters of a directive, and skipped
conversions in both, in the middle of an argument list and of a buffer. -/
theorem emit_ofFormat_append_seam :
    let first := Bytes.ofAscii ['%', '*', '.', '2', 'h', 'd', '%', 'g', '%', '%', 'x']
    let second := Bytes.ofAscii ['h', 'd', '%', 's', '%', 'o', '%', 'q']
    let args : List Arg :=
      [.int 4, .int 7, .double 0, .str (some (Bytes.ofAscii ['o', 'k'])), .uint 1, .ptr 9]
    .literal [percentByte] ∉ ofFormat first ∧
      emit (ofFormat (first ++ second)) ⟨⟨3, args⟩, Bytes.ofAscii ['>']⟩ =
        (.ok [.g, .o], ⟨⟨8, [.ptr 9]⟩, Bytes.ofAscii
          ['>', ' ', ' ', '0', '7', '%', 'x', 'h', 'd', 'o', 'k', '%', 'q']⟩) := by
  intro first second args
  have hcomplete : .literal [percentByte] ∉ ofFormat first := by decide +kernel
  refine ⟨hcomplete, ?_⟩
  rw [emit_ofFormat_append hcomplete]
  change (_ : Except FormatError (List Conversion) × Progress) = _
  decide +kernel

end StubLibc.Format
