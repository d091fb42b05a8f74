import StubLibc.Proofs.Json.Compact
import StubLibc.Proofs.Json.Grammar

/-!
# Passing over values

`Scan.skipValue` takes exactly one value of the grammar, whatever the value is and whatever follows
it.  Only a number has to be told from what follows, so only a number asks that it be followed by
something that does not continue it.

Inside brackets the reader goes in steps, and a value there is taken in several of them.  The proof
is by induction on the value, for all frames that are open around it: the step in which the value
starts leads to the state in which the innermost frame goes on.
-/

namespace StubLibc.Json.Scan

variable {α β σ : Type}

/-! ## Strings -/

theorem reads_skipEscaped_code {digits : List Char} (hlength : digits.length = 4)
    (hcode : (hexNumber? digits).isSome = true) : skipEscaped.Reads ('u' :: digits) () := by
  obtain ⟨code, hcode⟩ := Option.isSome_iff_exists.mp hcode
  have hescape := reads_hexEscape hlength hcode
  exact (reads_nextInString 'u').bind_cons (hescape.bind_nil (reads_pure ()))

theorem reads_skipStringStep {unit : List Char} (h : IsUnit unit) :
    (skipStringStep ()).Reads unit (.inl ()) := by
  cases h with
  | @raw c hquote hbackslash hcontrol =>
    apply (reads_nextInString c).bind_cons
    rw [if_neg hquote, if_neg hbackslash, if_neg (by omega)]
    exact reads_pure _
  | @letter letter h =>
    have hescaped : skipEscaped.Reads [letter] () := by
      apply (reads_nextInString letter).bind_cons
      rw [if_pos h]
      exact reads_pure ()
    exact (reads_nextInString '\\').bind_cons (hescaped.bind_nil (reads_pure _))
  | code hlength hcode =>
    exact (reads_nextInString '\\').bind_cons
      ((reads_skipEscaped_code hlength hcode).bind_nil (reads_pure _))

theorem reads_skipString {body : List Char} (h : IsBody body) :
    skipString.Reads (body ++ ['"']) () := by
  induction h with
  | nil => exact reads_loop_done ((reads_nextInString '"').bind_cons (reads_pure _))
  | cons hunit _ ih =>
    rw [List.append_assoc]
    exact reads_loop_more (reads_skipStringStep hunit) hunit.ne_nil ih

/-! ## Numbers -/

/-- The text does not go on with a digit. -/
def NoDigit (rest : List Char) : Prop := ∀ c ∈ rest.head?, isDigit c = false

/-- The text does not go on with a part of a number. -/
def EndsNumber (rest : List Char) : Prop :=
  ∀ c ∈ rest.head?, isDigit c = false ∧ c ≠ '.' ∧ c ≠ 'e' ∧ c ≠ 'E'

variable {rest : List Char}

theorem endsNumber_cons {c : Char} (hdigit : isDigit c = false) (hpoint : c ≠ '.')
    (he : c ≠ 'e') (hE : c ≠ 'E') (rest : List Char) : EndsNumber (c :: rest) := by
  rintro _ ⟨⟩
  exact ⟨hdigit, hpoint, he, hE⟩

/-- White space keeps a number from going on. -/
theorem EndsNumber.blank {blank : List Char} (hblank : IsBlank blank) (h : EndsNumber rest) :
    EndsNumber (blank ++ rest) := by
  cases blank with
  | nil => exact h
  | cons c more =>
    have hspace := hblank c List.mem_cons_self
    simp only [isSpace, Bool.or_eq_true, beq_iff_eq] at hspace
    rcases hspace with ((rfl | rfl) | rfl) | rfl <;>
      exact endsNumber_cons (by decide) (by decide) (by decide) (by decide) _

theorem EndsNumber.noDigit (h : EndsNumber rest) : NoDigit rest := fun c hc ↦ (h c hc).1

theorem run_span {test : Char → Bool} {taken : List Char} (htaken : ∀ c ∈ taken, test c = true)
    (hrest : ∀ c ∈ rest.head?, test c = false) :
    (span test).run (taken ++ rest) = .ok (taken, rest) := by
  have hstop : rest.takeWhile test = [] ∧ rest.dropWhile test = rest := by
    cases rest with
    | nil => exact ⟨rfl, rfl⟩
    | cons c more =>
      have hc := hrest c rfl
      simp [hc]
  rw [span]
  dsimp only
  rw [List.takeWhile_append_of_pos htaken, List.dropWhile_append_of_pos htaken, hstop.1, hstop.2,
    List.append_nil]

theorem run_digits {digits : List Char} (h : IsDigits digits) (hrest : NoDigit rest)
    (atEnd : Fault) : (Scan.digits atEnd).run (digits ++ rest) = .ok (digits, rest) := by
  rw [Scan.digits, run_bind, run_span h.2 hrest]
  dsimp only
  rw [if_neg (by simpa using h.1)]
  rfl

theorem run_wholePart {whole : List Char} (h : IsWhole whole) (hrest : NoDigit rest)
    (atEnd : Fault) : (wholePart atEnd).run (whole ++ rest) = .ok (whole, rest) := by
  obtain rfl | ⟨⟨hne, hdigits⟩, hzero⟩ := h
  · rw [wholePart, List.singleton_append, run_bind_of_ok (run_peek _)]
    dsimp only [List.head?_cons]
    rw [if_pos rfl, run_bind_of_ok (run_next _ _), run_bind_of_ok (run_peek _)]
    cases rest with
    | nil => rfl
    | cons c more =>
      have hc := hrest c rfl
      dsimp only [List.head?_cons]
      rw [hc]
      rfl
  · obtain ⟨c, more, rfl⟩ := List.exists_cons_of_ne_nil hne
    have hc := hdigits c List.mem_cons_self
    have hzero : c ≠ '0' := fun h ↦ hzero (congrArg some h)
    rw [wholePart, run_bind_of_ok (run_peek _)]
    dsimp only [List.cons_append, List.head?_cons]
    rw [if_neg hzero, if_pos hc]
    exact run_span hdigits hrest

theorem run_fractionPart {fraction : List Char} (h : IsFraction fraction) (hrest : NoDigit rest)
    (hpoint : rest.head? ≠ some '.') (atEnd : Fault) :
    ∃ found, (fractionPart atEnd).run (fraction ++ rest) = .ok (found, rest) := by
  obtain rfl | ⟨digits, hdigits, rfl⟩ := h
  · refine ⟨none, ?_⟩
    rw [List.nil_append, fractionPart, run_bind_of_ok (run_peek _), if_neg hpoint, run_pure]
  · refine ⟨some digits, ?_⟩
    rw [List.cons_append, fractionPart, run_bind_of_ok (run_peek _), if_pos (List.head?_cons ..),
      run_bind_of_ok (run_next _ _)]
    exact run_map_of_ok (run_digits hdigits hrest atEnd) some

theorem run_exponentPart {exponent : List Char} (h : IsExponent exponent) (hrest : EndsNumber rest)
    (atEnd : Fault) :
    ∃ found, (exponentPart atEnd).run (exponent ++ rest) = .ok (found, rest) := by
  obtain rfl | ⟨mark, sign, digits, hmark, hsign, hdigits, rfl⟩ := h
  · have hmark : ¬ (rest.head? = some 'e' ∨ rest.head? = some 'E') := by
      rintro (h | h)
      · exact (hrest _ h).2.2.1 rfl
      · exact (hrest _ h).2.2.2 rfl
    refine ⟨none, ?_⟩
    rw [List.nil_append, exponentPart, run_bind_of_ok (run_peek _)]
    dsimp only
    rw [if_neg hmark, run_pure]
  · have hmark (text : List Char) :
        (mark :: text).head? = some 'e' ∨ (mark :: text).head? = some 'E' := by
      simpa using hmark
    have hsize := run_digits hdigits hrest.noDigit atEnd
    rw [exponentPart, List.cons_append, List.append_assoc, run_bind_of_ok (run_peek _)]
    dsimp only
    rw [if_pos (hmark _), run_bind_of_ok (run_next _ _), run_bind_of_ok (run_peek _)]
    obtain rfl | ⟨c, hc, rfl⟩ : sign = [] ∨ ∃ c, (c = '+' ∨ c = '-') ∧ sign = [c] := by
      rcases hsign with rfl | rfl | rfl
      · exact .inl rfl
      · exact .inr ⟨'+', .inl rfl, rfl⟩
      · exact .inr ⟨'-', .inr rfl, rfl⟩
    · have hunsigned : ¬ ((digits ++ rest).head? = some '+' ∨
          (digits ++ rest).head? = some '-') := by
        obtain ⟨c, more, rfl⟩ := List.exists_cons_of_ne_nil hdigits.1
        have hc := hdigits.2 c List.mem_cons_self
        rintro (h | h) <;> cases h <;> exact absurd hc (by decide)
      refine ⟨some (decide ((digits ++ rest).head? = some '-'), digits), ?_⟩
      rw [List.nil_append, if_neg hunsigned]
      exact run_bind_of_ok hsize _
    · have hsigned (text : List Char) :
          (c :: text).head? = some '+' ∨ (c :: text).head? = some '-' := by
        simpa using hc
      refine ⟨some (decide (some c = some '-'), digits), ?_⟩
      rw [List.singleton_append, if_pos (hsigned _), run_bind_of_ok (run_next _ _)]
      exact run_bind_of_ok hsize _

/-- What follows the digits of a number's whole part is no digit. -/
theorem noDigit_append {fraction exponent : List Char} (hfraction : IsFraction fraction)
    (hexponent : IsExponent exponent) (hrest : EndsNumber rest) :
    NoDigit (fraction ++ (exponent ++ rest)) := by
  obtain rfl | ⟨digits, -, rfl⟩ := hfraction
  · obtain rfl | ⟨mark, sign, digits, hmark, -, -, rfl⟩ := hexponent
    · exact hrest.noDigit
    · rintro c ⟨⟩
      rcases hmark with rfl | rfl <;> decide
  · rintro c ⟨⟩
    decide

/-- Neither digits nor a point follow the fraction of a number. -/
theorem noFraction_append {exponent : List Char} (hexponent : IsExponent exponent)
    (hrest : EndsNumber rest) :
    NoDigit (exponent ++ rest) ∧ (exponent ++ rest).head? ≠ some '.' := by
  obtain rfl | ⟨mark, sign, digits, hmark, -, -, rfl⟩ := hexponent
  · exact ⟨hrest.noDigit, fun h ↦ (hrest _ h).2.1 rfl⟩
  · constructor
    · rintro c ⟨⟩
      rcases hmark with rfl | rfl <;> decide
    · intro h
      cases h
      rcases hmark with h | h <;> exact absurd h (by decide)

theorem run_skipNumber {number : List Char} (h : IsUnsigned number) (hrest : EndsNumber rest) :
    skipNumber.run (number ++ rest) = .ok ((), rest) := by
  obtain ⟨hwhole, hfraction, hexponent⟩ := h
  have hafterWhole := noDigit_append hfraction hexponent hrest
  obtain ⟨hafterFraction, hpoint⟩ := noFraction_append hexponent hrest
  obtain ⟨exponent, hexponent⟩ := run_exponentPart hexponent hrest .invalidNumber
  obtain ⟨fraction, hfraction⟩ :=
    run_fractionPart hfraction hafterFraction hpoint .invalidNumber
  rw [List.append_assoc, List.append_assoc, skipNumber, run_bind, spelling,
    run_bind_of_ok (run_wholePart hwhole hafterWhole _), run_bind_of_ok hfraction,
    run_bind_of_ok hexponent]
  rfl

/-! ## Values -/

variable {frames : List Frame}

theorem reads_skipStart_word {letters : List Char} (h : letters ∈ words) (frames : List Frame) :
    (skipStart frames).Reads letters (afterValue frames) := by
  rw [words, List.mem_cons, List.mem_cons, List.mem_singleton] at h
  rcases h with rfl | rfl | rfl <;> exact fun _ ↦ rfl

theorem reads_skipStart_string {body : List Char} (h : IsBody body) (frames : List Frame) :
    (skipStart frames).Reads (quoted body) (afterValue frames) := by
  apply reads_of_token isBlank_nil rfl
  exact (reads_next '"').bind_cons ((reads_skipString h).bind_nil (reads_pure _))

theorem reads_skipStart_bracket (frame : Frame) (frames : List Frame) :
    (skipStart frames).Reads [frame.opening] (.inl ⟨frame :: frames, .first⟩) := by
  cases frame <;> exact fun _ ↦ rfl

theorem run_skipStart_number {number rest : List Char} (h : IsNumber number)
    (hrest : EndsNumber rest) (frames : List Frame) :
    (skipStart frames).run (number ++ rest) = .ok (afterValue frames, rest) := by
  obtain h | h := h
  · have hrun := run_skipNumber h hrest
    obtain ⟨c, more, rfl, hc⟩ := h.exists_cons
    have hother : ∀ d, isDigit d = false → c ≠ d := by
      rintro d hd rfl
      exact absurd (hc.symm.trans hd) (by decide)
    rw [List.cons_append] at hrun ⊢
    rw [skipStart, run_bind_of_ok (run_token_cons (not_isSpace_of_isDigit hc) _)]
    split
    case h_9 d _ _ _ _ _ _ _ hd =>
      cases hd
      rw [if_pos hc, run_bind_of_ok hrun, run_pure]
    case h_1 => contradiction
    all_goals
      rename_i hd
      exact absurd (Option.some.inj hd) (hother _ (by decide))
  · have hrun := run_skipNumber h hrest
    rw [List.cons_append, skipStart, run_bind_of_ok (run_token_cons (by decide) _)]
    exact (run_bind_of_ok (run_next '-' _) _).trans (run_bind_of_ok hrun _)

theorem reads_skipKey_object {beforeKey key beforeColon : List Char}
    (hbeforeKey : IsBlank beforeKey) (hkey : IsBody key) (hbeforeColon : IsBlank beforeColon) :
    (skipKey .object).Reads (beforeKey ++ (quoted key ++ (beforeColon ++ [':']))) () := by
  apply reads_of_token hbeforeKey rfl
  apply (reads_next '"').bind_cons
  apply (reads_skipString hkey).bind
  exact reads_of_token hbeforeColon rfl ((reads_next ':').bind_cons (reads_pure ()))

theorem leads_skipStart_blank {blank text rest : List Char} (hblank : IsBlank blank)
    (h : Leads skipStep (skipStart frames) text () rest) :
    Leads skipStep (skipStart frames) (blank ++ text) () rest :=
  h.blank hblank

/-- What stands before a value in a frame leads to the value. -/
theorem leads_skipKey {frame : Frame} (opening : Opening frame) {text rest : List Char}
    (h : Leads skipStep (skipStart frames) text () rest) :
    Leads skipStep (skipKey frame >>= fun _ ↦ skipStart frames) (opening.text ++ text) () rest := by
  cases opening with
  | item blank => exact leads_skipStart_blank blank.property h
  | member beforeKey key isBody beforeColon afterColon =>
    have hkey := reads_skipKey_object beforeKey.property isBody beforeColon.property
    have hlead : Leads skipStep (skipKey .object >>= fun _ ↦ skipStart frames) _ () rest :=
      .bind hkey (leads_skipStart_blank afterColon.property h)
    simpa [Opening.text] using hlead

/-- The first part of a frame. -/
theorem leads_skipStep_first {frame : Frame} (opening : Opening frame) {value more rest : List Char}
    (hvalue : IsValue value)
    (h : Leads skipStep (skipStart (frame :: frames)) (value ++ more) () rest) :
    Leads skipStep (skipStep ⟨frame :: frames, .first⟩) (opening.text ++ (value ++ more)) ()
      rest := by
  cases opening with
  | item blank =>
    obtain ⟨c, tail, rfl, hspace, hclosing⟩ := hvalue.exists_cons
    have hclosing : c ≠ Frame.list.closing := hclosing
    apply Leads.blank blank.property
    apply Leads.token hspace
    dsimp only
    rw [if_neg hclosing]
    exact h
  | member beforeKey key isBody beforeColon afterColon =>
    have hlead := leads_skipKey (.member ⟨[], isBlank_nil⟩ key isBody beforeColon afterColon) h
    rw [Opening.text, List.append_assoc]
    apply Leads.blank beforeKey.property
    apply Leads.token rfl
    exact hlead

/-- A part of a frame after a comma. -/
theorem leads_skipStep_more {frame : Frame} (opening : Opening frame) {gap text rest : List Char}
    (hgap : IsBlank gap) (h : Leads skipStep (skipStart (frame :: frames)) text () rest) :
    Leads skipStep (skipStep ⟨frame :: frames, .more⟩) (gap ++ ',' :: (opening.text ++ text)) ()
      rest := by
  have hclosing : ',' ≠ frame.closing := by cases frame <;> decide
  apply Leads.blank hgap
  apply Leads.token rfl
  dsimp only
  rw [if_neg hclosing, if_pos rfl]
  exact .bind (reads_next ',') (leads_skipKey opening h)

/-- The end of a frame. -/
theorem leads_skipStep_end (frame : Frame) (due : Due) (hdue : due ≠ .value)
    {gap more rest : List Char} (hgap : IsBlank gap)
    (hafter : (after skipStep (afterValue frames)).run more = .ok ((), rest)) :
    Leads skipStep (skipStep ⟨frame :: frames, due⟩) (gap ++ frame.closing :: more) () rest := by
  have hreads : (skipStep ⟨frame :: frames, due⟩).Reads (gap ++ [frame.closing])
      (afterValue frames) := by
    cases due with
    | value => exact absurd rfl hdue
    | first | more =>
      apply reads_of_token hgap (by cases frame <;> rfl)
      dsimp only
      rw [if_pos rfl]
      exact (reads_next _).bind_cons (reads_pure _)
  have hleads := leads_of_run (hreads more) (List.append_ne_nil_of_right_ne_nil _ (by simp)) hafter
  rwa [List.append_assoc] at hleads

/-- From the step in which `value` starts, whatever frames are open, the reader comes to the state
after it. -/
def PassesIn (value : List Char) : Prop :=
  ∀ (frames : List Frame) {more rest : List Char}, (IsNumber value → EndsNumber more) →
    (after skipStep (afterValue frames)).run more = .ok ((), rest) →
      Leads skipStep (skipStart frames) (value ++ more) () rest

theorem endsNumber_closing {gap : List Char} (hgap : IsBlank gap) (frame : Frame)
    (more : List Char) : EndsNumber (gap ++ frame.closing :: more) := by
  apply EndsNumber.blank hgap
  cases frame <;> exact endsNumber_cons (by decide) (by decide) (by decide) (by decide) _

theorem endsNumber_parts {frame : Frame} {gap : List Char} (hgap : IsBlank gap)
    (parts : List (Part frame)) (more : List Char) :
    EndsNumber (gap ++ ((parts.map Part.text).flatMap (',' :: ·) ++ frame.closing :: more)) := by
  cases parts with
  | nil => exact endsNumber_closing hgap frame more
  | cons part parts =>
    apply EndsNumber.blank hgap
    exact endsNumber_cons (by decide) (by decide) (by decide) (by decide) _

/-- What is left of a frame after one of its parts. -/
theorem run_parts {frame : Frame} {parts : List (Part frame)}
    (hparts : ∀ part ∈ parts, PassesIn part.value) {gap more rest : List Char} (hgap : IsBlank gap)
    (hafter : (after skipStep (afterValue frames)).run more = .ok ((), rest)) :
    (loop skipStep ⟨frame :: frames, .more⟩).run
      (gap ++ ((parts.map Part.text).flatMap (',' :: ·) ++ frame.closing :: more)) =
        .ok ((), rest) := by
  induction parts generalizing gap with
  | nil => exact run_loop_of_leads (leads_skipStep_end frame .more nofun hgap hafter)
  | cons part parts ih =>
    rw [List.forall_mem_cons] at hparts
    have hrest := ih hparts.2 part.closing.property
    have hends := endsNumber_parts part.closing.property parts more
    have hvalue := hparts.1 (frame :: frames) (fun _ ↦ hends) hrest
    have hlead := run_loop_of_leads (leads_skipStep_more part.opening hgap hvalue)
    simpa [Part.text] using hlead

/-- A frame with parts. -/
theorem passesIn_filled {frame : Frame} {parts : List (Part frame)} (hne : parts ≠ [])
    (hvalues : ∀ part ∈ parts, IsValue part.value)
    (hparts : ∀ part ∈ parts, PassesIn part.value) :
    PassesIn (frame.opening ::
      (Document.commaSeparated (parts.map Part.text) ++ [frame.closing])) := by
  intro frames more rest _ hafter
  obtain ⟨part, parts, rfl⟩ := List.exists_cons_of_ne_nil hne
  rw [List.forall_mem_cons] at hvalues hparts
  have hrest := run_parts hparts.2 part.closing.property hafter
  have hends := endsNumber_parts part.closing.property parts more
  have hvalue := hparts.1 (frame :: frames) (fun _ ↦ hends) hrest
  have hfirst := run_loop_of_leads (leads_skipStep_first part.opening hvalues.1 hvalue)
  have hbracket :=
    leads_of_run (reads_skipStart_bracket frame frames _) (List.cons_ne_nil _ _) hfirst
  rw [List.map_cons, Document.commaSeparated_cons]
  simpa [Part.text] using hbracket

theorem passesIn_of_isValue {value : List Char} (h : IsValue value) : PassesIn value := by
  induction h with
  | word h =>
    intro frames more rest _ hafter
    refine leads_of_run (reads_skipStart_word h frames more) ?_ hafter
    rintro rfl
    exact absurd h (by decide)
  | number h =>
    intro frames more rest hmore hafter
    refine leads_of_run (run_skipStart_number h (hmore h) frames) ?_ hafter
    obtain ⟨c, digits, rfl, -⟩ := h.exists_cons
    exact List.cons_ne_nil _ _
  | string h =>
    intro frames more rest _ hafter
    exact leads_of_run (reads_skipStart_string h frames more) (List.cons_ne_nil _ _) hafter
  | empty frame blank =>
    intro frames more rest _ hafter
    have hend :=
      run_loop_of_leads (leads_skipStep_end frame .first nofun blank.property hafter)
    have hbracket :=
      leads_of_run (reads_skipStart_bracket frame frames _) (List.cons_ne_nil _ _) hend
    simpa using hbracket
  | filled hne hvalues ih => exact passesIn_filled hne hvalues ih

/-- A value is passed over, and nothing else is. -/
theorem run_skipValue {blank value rest : List Char} (hblank : IsBlank blank) (h : IsValue value)
    (hrest : IsNumber value → EndsNumber rest) :
    skipValue.run (blank ++ (value ++ rest)) = .ok ((), rest) :=
  run_loop_of_leads (leads_skipStart_blank hblank (passesIn_of_isValue h [] hrest rfl))

end StubLibc.Json.Scan
