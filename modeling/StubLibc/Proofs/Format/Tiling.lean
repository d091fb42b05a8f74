import StubLibc.Proofs.Format.Grammar
import StubLibc.Format.Segment

/-!
# The segments of a format tile it

Every byte of a format belongs to one piece of it, and every piece is read as one segment: a run
without `%` that ends only where the format does or a `%` follows, a `%` that opens nothing, `%%`,
or a `%` with a written directive behind it.  `Covers` says which piece is read as which segment in
front of which bytes, without saying how a format is walked; a format is tiled by such pieces in
exactly one way, and its segments are those of that tiling.
-/

namespace StubLibc.Format.Segment

/-- A `%` in front of these bytes opens nothing. -/
def OpensNothing (rest : Bytes) : Prop :=
  rest = [] ∨ rest.head? ≠ some percentByte ∧ Directive.parse? rest = none

/-- A segment is what its piece is read as in front of the rest of the format. -/
inductive Covers (rest : Bytes) : Segment → Bytes → Prop
  /-- A run without `%`, as long as it can be. -/
  | run {run : Bytes} (hne : run ≠ []) (hfree : percentByte ∉ run)
    (hends : rest = [] ∨ rest.head? = some percentByte) : Covers rest (.literal run) run
  | lone (hrest : OpensNothing rest) : Covers rest (.literal [percentByte]) [percentByte]
  | percent : Covers rest .percent [percentByte, percentByte]
  | directive {word : Bytes} {spec : Directive}
    (hparse : Directive.parse? (word ++ rest) = some (spec, rest)) :
    Covers rest (.directive spec) (percentByte :: word)

/-- The pieces follow each other in the format, and each is covered by its segment. -/
inductive Tiles : Bytes → List Segment → List Bytes → Prop
  | nil : Tiles [] [] []
  | cons {rest piece : Bytes} {segment : Segment} {segments : List Segment} {pieces : List Bytes}
    (hcovers : Covers rest segment piece) (hrest : Tiles rest segments pieces) :
    Tiles (piece ++ rest) (segment :: segments) (piece :: pieces)

variable {format rest piece word run : Bytes} {segment : Segment} {segments : List Segment}
  {pieces : List Bytes} {spec : Directive}

/-! ## One step of reading a format -/

theorem ofFormat_nil : ofFormat [] = [] := by
  rw [ofFormat]

theorem ofFormat_run (hne : run ≠ []) (hfree : percentByte ∉ run)
    (hends : rest = [] ∨ rest.head? = some percentByte) :
    ofFormat (run ++ rest) = .literal run :: ofFormat rest := by
  obtain ⟨first, more, rfl⟩ := List.exists_cons_of_ne_nil hne
  have hfirst : first ≠ percentByte := (List.ne_of_not_mem_cons hfree).symm
  have hmore : ∀ byte ∈ more, decide (byte ≠ percentByte) = true := by
    intro byte hbyte
    rw [decide_eq_true_eq]
    rintro rfl
    exact hfree (List.mem_cons_of_mem _ hbyte)
  have hstop : rest.takeWhile (fun byte ↦ decide (byte ≠ percentByte)) = [] ∧
      rest.dropWhile (fun byte ↦ decide (byte ≠ percentByte)) = rest := by
    rcases hends with rfl | hhead
    · exact ⟨rfl, rfl⟩
    · obtain ⟨tail, rfl⟩ := List.head?_eq_some_iff.mp hhead
      exact ⟨rfl, rfl⟩
  rw [List.cons_append, ofFormat.eq_def]
  dsimp only
  rw [if_pos hfirst, List.takeWhile_append_of_pos hmore, List.dropWhile_append_of_pos hmore,
    hstop.1, hstop.2, List.append_nil]

theorem ofFormat_percent (rest : Bytes) :
    ofFormat (percentByte :: percentByte :: rest) = .percent :: ofFormat rest := by
  rw [ofFormat, if_neg (not_not.mpr rfl)]
  exact if_pos rfl

theorem ofFormat_directive {text : Bytes} (hparse : Directive.parse? text = some (spec, rest)) :
    ofFormat (percentByte :: text) = .directive spec :: ofFormat rest := by
  cases text with
  | nil => cases hparse
  | cons second tail =>
    have hsecond : second ≠ percentByte := by
      rintro rfl
      cases hparse
    rw [ofFormat, if_neg (not_not.mpr rfl), if_neg hsecond]
    split
    · next found after heq =>
      rw [hparse, Option.some.injEq, Prod.mk.injEq] at heq
      rw [heq.1, heq.2]
    · next heq =>
      rw [hparse] at heq
      cases heq

theorem ofFormat_lone (hrest : OpensNothing rest) :
    ofFormat (percentByte :: rest) = .literal [percentByte] :: ofFormat rest := by
  cases rest with
  | nil => rw [ofFormat_nil, ofFormat, if_neg (not_not.mpr rfl)]
  | cons second tail =>
    obtain ⟨hhead, hparse⟩ := hrest.resolve_left (List.cons_ne_nil second tail)
    have hsecond : second ≠ percentByte := fun h ↦ hhead (congrArg some h)
    rw [ofFormat, if_neg (not_not.mpr rfl), if_neg hsecond]
    split
    · next heq =>
      rw [hparse] at heq
      cases heq
    · rfl

/-- A segment that covers the front of a format is the first one of the format. -/
theorem Covers.ofFormat_append (h : Covers rest segment piece) :
    ofFormat (piece ++ rest) = segment :: ofFormat rest := by
  cases h with
  | run hne hfree hends => exact ofFormat_run hne hfree hends
  | lone hrest => exact ofFormat_lone hrest
  | percent => exact ofFormat_percent rest
  | directive hparse => exact ofFormat_directive hparse

/-! ## Pieces -/

theorem Covers.ne_nil (h : Covers rest segment piece) : piece ≠ [] := by
  cases h with
  | run hne _ _ => exact hne
  | lone _ => exact List.cons_ne_nil _ _
  | percent => exact List.cons_ne_nil _ _
  | directive _ => exact List.cons_ne_nil _ _

/-- The segment and the format leave no choice of the piece. -/
theorem Covers.piece_eq {other more : Bytes} (h : Covers rest segment piece)
    (hother : Covers more segment other) (heq : piece ++ rest = other ++ more) :
    piece = other := by
  cases h with
  | run _ _ _ => cases hother <;> rfl
  | lone _ => cases hother <;> rfl
  | percent => cases hother; rfl
  | directive hparse =>
    cases hother with
    | directive hparse' =>
      rw [List.cons_append, List.cons_append, List.cons.injEq] at heq
      have htail := heq.2
      rw [htail, hparse', Option.some.injEq, Prod.mk.injEq] at hparse
      rw [hparse.2] at htail
      rw [List.append_cancel_right htail]

/-- A piece that starts with `%` is that `%` alone exactly if it opens nothing. -/
theorem Covers.eq_nil_iff (h : Covers rest segment (percentByte :: word)) :
    word = [] ↔ OpensNothing (word ++ rest) := by
  cases h with
  | run _ hfree _ => exact absurd (List.mem_cons_self ..) hfree
  | lone hrest => exact iff_of_true rfl hrest
  | percent =>
    apply iff_of_false (List.cons_ne_nil _ _)
    rintro (hnil | ⟨hhead, -⟩)
    · cases hnil
    · exact hhead rfl
  | directive hparse =>
    have hlength := Directive.length_parse?_lt hparse
    have hword : word ≠ [] := by
      rintro rfl
      exact Nat.lt_irrefl _ hlength
    apply iff_of_false hword
    rintro (hnil | ⟨-, hnone⟩)
    · exact hword (List.append_eq_nil_iff.mp hnil).1
    · rw [hparse] at hnone
      cases hnone

/-! ## Tilings -/

namespace Tiles

theorem flatten_eq (h : Tiles format segments pieces) : pieces.flatten = format := by
  induction h with
  | nil => rfl
  | cons _ _ ih => rw [List.flatten_cons, ih]

theorem length_eq (h : Tiles format segments pieces) : pieces.length = segments.length := by
  induction h with
  | nil => rfl
  | cons _ _ ih => rw [List.length_cons, List.length_cons, ih]

theorem ne_nil (h : Tiles format segments pieces) : ∀ piece ∈ pieces, piece ≠ [] := by
  induction h with
  | nil => exact fun _ hmem ↦ nomatch hmem
  | cons hcovers _ ih => exact List.forall_mem_cons.mpr ⟨hcovers.ne_nil, ih⟩

/-- There are no more segments than bytes. -/
theorem length_le (h : Tiles format segments pieces) : segments.length ≤ format.length := by
  induction h with
  | nil => exact Nat.le_refl _
  | cons hcovers _ ih =>
    have hpos := List.length_pos_iff.mpr hcovers.ne_nil
    rw [List.length_cons, List.length_append]
    omega

/-- A tiling gives the segments of the format. -/
theorem segments_eq (h : Tiles format segments pieces) : segments = ofFormat format := by
  induction h with
  | nil => exact ofFormat_nil.symm
  | cons hcovers _ ih => rw [hcovers.ofFormat_append, ih]

/-- A format is tiled by given segments in one way at most. -/
theorem pieces_eq {others : List Bytes} (h : Tiles format segments pieces)
    (hother : Tiles format segments others) : pieces = others := by
  generalize hformat : format = text at hother
  induction h generalizing text others with
  | nil =>
    cases hother
    rfl
  | cons hcovers _ ih =>
    cases hother with
    | cons hcovers' hrest' =>
      have hpiece := hcovers.piece_eq hcovers' hformat
      rw [hpiece] at hformat
      rw [hpiece, ih _ (List.append_cancel_left hformat) hrest']

/-- Every piece is covered in front of the pieces after it. -/
theorem exists_covers {before after : List Bytes}
    (h : Tiles format segments (before ++ piece :: after)) :
    ∃ segment, Covers after.flatten segment piece := by
  induction before generalizing format segments with
  | nil =>
    cases h with
    | cons hcovers hrest =>
      rw [← hrest.flatten_eq] at hcovers
      exact ⟨_, hcovers⟩
  | cons _ before ih =>
    cases h with
    | cons _ hrest => exact ih hrest

end Tiles

/-- A run without `%` ends where the format does or at a `%`. -/
theorem covers_run {first : UInt8} (hfirst : first ≠ percentByte) (rest : Bytes) :
    Covers (rest.dropWhile (· ≠ percentByte))
      (.literal (first :: rest.takeWhile (· ≠ percentByte)))
      (first :: rest.takeWhile (· ≠ percentByte)) := by
  apply Covers.run (List.cons_ne_nil _ _)
  · rw [List.mem_cons, not_or]
    refine ⟨hfirst.symm, fun hmem ↦ ?_⟩
    have hne := List.all_eq_true.mp List.all_takeWhile _ hmem
    exact of_decide_eq_true hne rfl
  · have hstop := List.head?_dropWhile_not (fun byte ↦ decide (byte ≠ percentByte)) rest
    cases hdrop : rest.dropWhile (fun byte ↦ decide (byte ≠ percentByte)) with
    | nil => exact .inl rfl
    | cons byte tail =>
      rw [hdrop] at hstop
      have hbyte : byte = percentByte := not_not.mp (of_decide_eq_false hstop)
      exact .inr (congrArg some hbyte)

/-- The segments of a format tile it. -/
theorem exists_tiles (format : Bytes) : ∃ pieces, Tiles format (ofFormat format) pieces := by
  fun_induction ofFormat format with
  | case1 => exact ⟨[], .nil⟩
  | case2 first rest hfirst ih =>
    obtain ⟨pieces, htiles⟩ := ih
    have hcons := Tiles.cons (covers_run hfirst rest) htiles
    rw [List.cons_append, List.takeWhile_append_dropWhile] at hcons
    exact ⟨_, hcons⟩
  | case3 first hfirst =>
    rw [not_not.mp hfirst]
    exact ⟨_, .cons (.lone (.inl rfl)) .nil⟩
  | case4 first hfirst tail ih =>
    obtain ⟨pieces, htiles⟩ := ih
    rw [not_not.mp hfirst]
    exact ⟨_, .cons .percent htiles⟩
  | case5 first hfirst second tail hsecond spec after hparse ih =>
    obtain ⟨pieces, htiles⟩ := ih
    obtain ⟨spelling, htext, -⟩ := Spelling.exists_of_parse? hparse
    rw [htext] at hparse ⊢
    rw [not_not.mp hfirst]
    exact ⟨_, .cons (.directive hparse) htiles⟩
  | case6 first hfirst second tail hsecond hparse ih =>
    obtain ⟨pieces, htiles⟩ := ih
    have hhead : (second :: tail).head? ≠ some percentByte := fun h ↦ hsecond (Option.some.inj h)
    rw [not_not.mp hfirst]
    exact ⟨_, .cons (.lone (.inr ⟨hhead, hparse⟩)) htiles⟩

/-- A format splits into pieces that are not empty, one for each of its segments and in their
order, each covered by its segment: no byte is lost, repeated or given to two of them, and there
are no more segments than bytes.  A `%` that starts a piece is the whole piece exactly where it
opens nothing.  No other pieces and segments tile the format. -/
theorem ofFormat_tiles (format : Bytes) :
    ∃ pieces, Tiles format (ofFormat format) pieces ∧ pieces.flatten = format ∧
      pieces.length = (ofFormat format).length ∧ (∀ piece ∈ pieces, piece ≠ []) ∧
      (ofFormat format).length ≤ format.length ∧
      (∀ before word after, pieces = before ++ (percentByte :: word) :: after →
        (word = [] ↔ OpensNothing (word ++ after.flatten))) ∧
      ∀ segments others, Tiles format segments others →
        segments = ofFormat format ∧ others = pieces := by
  obtain ⟨pieces, htiles⟩ := exists_tiles format
  refine ⟨pieces, htiles, htiles.flatten_eq, htiles.length_eq, htiles.ne_nil, htiles.length_le,
    ?_, ?_⟩
  · rintro before word after rfl
    obtain ⟨segment, hcovers⟩ := htiles.exists_covers
    exact hcovers.eq_nil_iff
  · intro segments others hother
    have hsegments := hother.segments_eq
    subst hsegments
    exact ⟨rfl, hother.pieces_eq htiles⟩

-- Reading goes on right after a `%` that opens nothing.
example : ofFormat (Bytes.ofAscii ['%', '5', '%', 'c']) =
    [.literal (Bytes.ofAscii ['%']), .literal (Bytes.ofAscii ['5']),
      .directive ⟨{}, .absent, .absent, .plain, .c⟩] := by
  decide +kernel

end StubLibc.Format.Segment
