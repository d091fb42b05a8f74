import StubLibc.Json.Scan

/-!
# What a scanner reads

`scan.Reads text value` says that the scanner takes exactly `text` off the front of any text and
gives `value`, whatever follows.  Such statements compose along the sequence of a scanner and along
the steps of a loop, so a whole text is read once each of its parts is.

Scanners that look at a character without taking it are described by their runs instead.
-/

namespace StubLibc.Json.Scan

variable {α β σ : Type}

/-- The scanner takes `text` and gives `value`, whatever follows. -/
def Reads (scan : Scan α) (text : List Char) (value : α) : Prop :=
  ∀ rest : List Char, scan.run (text ++ rest) = .ok (value, rest)

theorem reads_pure (value : α) : Reads (pure value) [] value :=
  fun _ ↦ rfl

theorem Reads.bind {first : Scan α} {second : α → Scan β} {text more : List Char} {value : α}
    {result : β} (hfirst : first.Reads text value) (hsecond : (second value).Reads more result) :
    Reads (first >>= second) (text ++ more) result := by
  intro rest
  rw [run_bind, List.append_assoc, hfirst (more ++ rest)]
  exact hsecond rest

/-- The first part takes a single character. -/
theorem Reads.bind_cons {first : Scan α} {second : α → Scan β} {c : Char} {more : List Char}
    {value : α} {result : β} (hfirst : first.Reads [c] value)
    (hsecond : (second value).Reads more result) : Reads (first >>= second) (c :: more) result :=
  hfirst.bind hsecond

/-- The second part takes nothing. -/
theorem Reads.bind_nil {first : Scan α} {second : α → Scan β} {text : List Char} {value : α}
    {result : β} (hfirst : first.Reads text value) (hsecond : (second value).Reads [] result) :
    Reads (first >>= second) text result := by
  have h := hfirst.bind hsecond
  rwa [List.append_nil] at h

theorem Reads.map {scan : Scan α} {text : List Char} {value : α} (h : scan.Reads text value)
    (f : α → β) : Reads (f <$> scan) text (f value) := by
  exact h.bind_nil (reads_pure (f value))

theorem reads_next (c : Char) : next.Reads [c] (some c) :=
  fun _ ↦ rfl

/-! ## Runs -/

theorem run_bind_of_ok {first : Scan α} {text rest : List Char} {value : α}
    (h : first.run text = .ok (value, rest)) (second : α → Scan β) :
    (first >>= second).run text = (second value).run rest := by
  rw [run_bind, h]

theorem run_map_of_ok {scan : Scan α} {text rest : List Char} {value : α}
    (h : scan.run text = .ok (value, rest)) (f : α → β) :
    (f <$> scan).run text = .ok (f value, rest) :=
  run_bind_of_ok h _

theorem run_peek (text : List Char) : peek.run text = .ok (text.head?, text) := rfl

theorem run_next (c : Char) (text : List Char) : next.run (c :: text) = .ok (some c, text) := rfl

/-! ## White space -/

/-- White space between tokens. -/
def IsBlank (blank : List Char) : Prop := ∀ c ∈ blank, isSpace c = true

theorem isBlank_nil : IsBlank [] := by
  intro c hc
  cases hc

/-- A token starts at the first character that is not white space. -/
theorem run_token {blank : List Char} (hblank : IsBlank blank) {c : Char} (hc : isSpace c = false)
    (rest : List Char) :
    token.run (blank ++ c :: rest) = .ok (some c, c :: rest) := by
  have hdrop : (blank ++ c :: rest).dropWhile isSpace = c :: rest := by
    rw [List.dropWhile_append_of_pos hblank]
    exact List.dropWhile_cons_of_neg (by simp [hc])
  rw [token, run_bind]
  simp only [span, hdrop]
  rfl

theorem run_token_cons {c : Char} (hc : isSpace c = false) (rest : List Char) :
    token.run (c :: rest) = .ok (some c, c :: rest) :=
  run_token isBlank_nil hc rest

/-- White space in front makes no difference to a token. -/
theorem run_token_blank {blank : List Char} (hblank : IsBlank blank) (text : List Char) :
    token.run (blank ++ text) = token.run text := by
  rw [token, run_bind, run_bind]
  simp only [span, List.dropWhile_append_of_pos hblank]

/-- White space up to the end of a text is followed by no token. -/
theorem run_token_end {blank : List Char} (hblank : IsBlank blank) :
    token.run blank = .ok (none, []) := by
  have hdrop : blank.dropWhile isSpace = [] := by
    rw [← List.append_nil blank, List.dropWhile_append_of_pos hblank]
    rfl
  rw [token, run_bind]
  simp only [span, hdrop]
  rfl

/-- A scanner that looks for a token first reads what it reads from that token on. -/
theorem reads_of_token {next : Option Char → Scan α} {blank : List Char} (hblank : IsBlank blank)
    {c : Char} (hc : isSpace c = false) {text : List Char} {value : α}
    (h : (next (some c)).Reads (c :: text) value) :
    Reads (token >>= next) (blank ++ c :: text) value := by
  intro rest
  rw [run_bind, List.append_assoc, List.cons_append, run_token hblank hc]
  exact h rest

/-! ## Loops -/

theorem reads_loop_done {step : σ → Scan (σ ⊕ α)} {state : σ} {text : List Char} {value : α}
    (h : (step state).Reads text (.inr value)) : (loop step state).Reads text value := by
  intro rest
  simp only [loop, iterate, h rest]

/-- A step that goes on has taken a character, which pays for the steps after it. -/
theorem reads_loop_more {step : σ → Scan (σ ⊕ α)} {state after : σ} {text more : List Char}
    {value : α} (hstep : (step state).Reads text (.inl after)) (htext : text ≠ [])
    (hloop : (loop step after).Reads more value) :
    (loop step state).Reads (text ++ more) value := by
  intro rest
  have hlength : (more ++ rest).length + 1 ≤ (text ++ more ++ rest).length := by
    have hpos := List.length_pos_iff.mpr htext
    simp only [List.length_append]
    omega
  simp only [loop, iterate, List.append_assoc, hstep (more ++ rest)]
  rw [List.append_assoc] at hlength
  exact iterate_of_le hlength (hloop rest)

/-- What is left of a loop after a step. -/
def after (step : σ → Scan (σ ⊕ α)) : σ ⊕ α → Scan α
  | .inl state => loop step state
  | .inr value => pure value

/-- As a step of a loop, the scanner takes a character at least, and from where it comes to the loop
ends with `value` in front of `rest`. -/
def Leads (step : σ → Scan (σ ⊕ α)) (first : Scan (σ ⊕ α)) (text : List Char) (value : α)
    (rest : List Char) : Prop :=
  ∃ next more, first.run text = .ok (next, more) ∧ more.length < text.length ∧
    (after step next).run more = .ok (value, rest)

theorem run_loop_of_leads {step : σ → Scan (σ ⊕ α)} {state : σ} {text rest : List Char} {value : α}
    (h : Leads step (step state) text value rest) :
    (loop step state).run text = .ok (value, rest) := by
  obtain ⟨next, more, hstep, hlength, hafter⟩ := h
  simp only [loop, iterate, hstep]
  cases next with
  | inl state => exact iterate_of_le (Nat.succ_le_of_lt hlength) hafter
  | inr _ => exact hafter

theorem leads_of_run {step : σ → Scan (σ ⊕ α)} {first : Scan (σ ⊕ α)} {next : σ ⊕ α}
    {taken more rest : List Char} {value : α} (h : first.run (taken ++ more) = .ok (next, more))
    (htaken : taken ≠ []) (hafter : (after step next).run more = .ok (value, rest)) :
    Leads step first (taken ++ more) value rest := by
  have hpos := List.length_pos_iff.mpr htaken
  refine ⟨next, more, h, ?_, hafter⟩
  rw [List.length_append]
  omega

theorem Leads.bind {step : σ → Scan (σ ⊕ α)} {first : Scan β} {second : β → Scan (σ ⊕ α)}
    {taken more rest : List Char} {found : β} {value : α} (hfirst : first.Reads taken found)
    (h : Leads step (second found) more value rest) :
    Leads step (first >>= second) (taken ++ more) value rest := by
  obtain ⟨next, left, hrun, hlength, hafter⟩ := h
  refine ⟨next, left, (run_bind_of_ok (hfirst more) second).trans hrun, ?_, hafter⟩
  rw [List.length_append]
  omega

/-- White space in front of a step that looks for a token. -/
theorem Leads.blank {step : σ → Scan (σ ⊕ α)} {second : Option Char → Scan (σ ⊕ α)}
    {blank text rest : List Char} {value : α} (hblank : IsBlank blank)
    (h : Leads step (token >>= second) text value rest) :
    Leads step (token >>= second) (blank ++ text) value rest := by
  obtain ⟨next, left, hrun, hlength, hafter⟩ := h
  refine ⟨next, left, ?_, ?_, hafter⟩
  · rw [run_bind, run_token_blank hblank, ← run_bind, hrun]
  · rw [List.length_append]
    omega

/-- A step that looks for a token goes on from there. -/
theorem Leads.token {step : σ → Scan (σ ⊕ α)} {second : Option Char → Scan (σ ⊕ α)} {c : Char}
    {text rest : List Char} {value : α} (hc : isSpace c = false)
    (h : Leads step (second (some c)) (c :: text) value rest) :
    Leads step (Scan.token >>= second) (c :: text) value rest := by
  obtain ⟨next, left, hrun, hlength, hafter⟩ := h
  exact ⟨next, left, (run_bind_of_ok (run_token_cons hc text) second).trans hrun, hlength,
    hafter⟩

/-! ## What has been read -/

theorem exists_of_run_bind {first : Scan α} {second : α → Scan β} {text rest : List Char}
    {result : β} (h : (first >>= second).run text = .ok (result, rest)) :
    ∃ value middle, first.run text = .ok (value, middle) ∧
      (second value).run middle = .ok (result, rest) := by
  rw [run_bind] at h
  split at h
  · cases h
  · rename_i value middle hfirst
    exact ⟨value, middle, hfirst, h⟩

theorem exists_of_run_token {text rest : List Char} {found : Option Char}
    (h : token.run text = .ok (found, rest)) :
    ∃ blank, IsBlank blank ∧ text = blank ++ rest ∧ found = rest.head? := by
  obtain ⟨blank, middle, hspan, hpeek⟩ := exists_of_run_bind h
  cases hspan
  cases hpeek
  have hblank := List.all_eq_true.mp (List.all_takeWhile (p := isSpace) (l := text))
  exact ⟨text.takeWhile isSpace, hblank, List.takeWhile_append_dropWhile.symm, rfl⟩

theorem exists_of_run_token_some {text rest : List Char} {c : Char}
    (h : token.run text = .ok (some c, rest)) :
    ∃ blank more, IsBlank blank ∧ text = blank ++ c :: more ∧ rest = c :: more := by
  obtain ⟨blank, hblank, htext, hhead⟩ := exists_of_run_token h
  obtain ⟨more, rfl⟩ := List.head?_eq_some_iff.mp hhead.symm
  exact ⟨blank, more, hblank, htext, rfl⟩

/-- Where a loop ends with a value, a relation holds that its last step establishes and every step
before carries back. -/
theorem loop_induction {step : σ → Scan (σ ⊕ α)}
    {motive : σ → List Char → α → List Char → Prop}
    (hdone : ∀ {state : σ} {text rest : List Char} {value : α},
      (step state).run text = .ok (.inr value, rest) → motive state text value rest)
    (hmore : ∀ {state next : σ} {text middle rest : List Char} {value : α},
      (step state).run text = .ok (.inl next, middle) → motive next middle value rest →
        motive state text value rest)
    {state : σ} {text rest : List Char} {value : α}
    (h : (loop step state).run text = .ok (value, rest)) : motive state text value rest := by
  have hiterate : ∀ {fuel : Nat} {state : σ} {text : List Char},
      iterate step fuel state text = .ok (value, rest) → motive state text value rest := by
    intro fuel
    induction fuel with
    | zero => nofun
    | succ fuel ih =>
      intro state text h
      unfold iterate at h
      split at h
      · cases h
      · rename_i hstep
        cases h
        exact hdone hstep
      · rename_i hstep
        exact hmore hstep (ih h)
  exact hiterate h

end StubLibc.Json.Scan
