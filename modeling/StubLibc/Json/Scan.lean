import StubLibc.Json.Fault

/-!
# Scanners

A `Scan` reads a value off the front of a text or stops at the first fault.  It never gives back
more text than it was given, and that is part of the type: it is what bounds `Scan.loop`, the only
way in which a scanner repeats.
-/

namespace StubLibc.Json

/-- A reader of a value at the front of a text, with the text that follows it. -/
structure Scan (α : Type) where
  run : List Char → Except Fault (α × List Char)
  length_le : ∀ {text rest : List Char} {value : α},
    run text = .ok (value, rest) → rest.length ≤ text.length

namespace Scan

variable {α β σ : Type}

def fail (fault : Fault) : Scan α where
  run _ := .error fault
  length_le h := by cases h

protected def pure (value : α) : Scan α where
  run text := .ok (value, text)
  length_le h := by
    simp only [Except.ok.injEq, Prod.mk.injEq] at h
    obtain ⟨_, rfl⟩ := h
    exact Nat.le_refl _

protected def bind (first : Scan α) (second : α → Scan β) : Scan β where
  run text :=
    match first.run text with
    | .error fault => .error fault
    | .ok (value, rest) => (second value).run rest
  length_le h := by
    split at h
    · cases h
    · rename_i hfirst
      exact Nat.le_trans ((second _).length_le h) (first.length_le hfirst)

instance : Monad Scan where
  pure := Scan.pure
  bind := Scan.bind

@[simp]
theorem run_pure (value : α) (text : List Char) :
    (pure value : Scan α).run text = .ok (value, text) := rfl

theorem run_bind (first : Scan α) (second : α → Scan β) (text : List Char) :
    (first >>= second).run text =
      match first.run text with
      | .error fault => .error fault
      | .ok (value, rest) => (second value).run rest := rfl

/-! ## Single characters -/

/-- The next character, which stays. -/
def peek : Scan (Option Char) where
  run text := .ok (text.head?, text)
  length_le h := by
    simp only [Except.ok.injEq, Prod.mk.injEq] at h
    obtain ⟨_, rfl⟩ := h
    exact Nat.le_refl _

def next : Scan (Option Char) where
  run text := .ok (text.head?, text.tail)
  length_le h := by
    simp only [Except.ok.injEq, Prod.mk.injEq] at h
    rw [← h.2]
    simp

/-- Takes the characters up to the first that fails a test. -/
def span (test : Char → Bool) : Scan (List Char) where
  run text := .ok (text.takeWhile test, text.dropWhile test)
  length_le h := by
    simp only [Except.ok.injEq, Prod.mk.injEq] at h
    rw [← h.2]
    exact (List.dropWhile_suffix _).length_le

/-- The white space between tokens: space, tab, line feed, carriage return. -/
def isSpace (c : Char) : Bool :=
  c == ' ' || c == '\n' || c == '\t' || c == '\r'

/-- Takes white space and looks at the character after it. -/
def token : Scan (Option Char) := do
  let _ ← span isSpace
  peek

/-! ## Repetition -/

/-- Repeats a step up to `fuel` times. -/
def iterate (step : σ → Scan (σ ⊕ α)) : Nat → σ → List Char → Except Fault (α × List Char)
  | 0, _, _ => .error .expectedValue
  | fuel + 1, state, text =>
    match (step state).run text with
    | .error fault => .error fault
    | .ok (.inr value, rest) => .ok (value, rest)
    | .ok (.inl state, rest) => iterate step fuel state rest

theorem length_le_of_iterate {step : σ → Scan (σ ⊕ α)} {fuel : Nat} {state : σ}
    {text rest : List Char} {value : α} (h : iterate step fuel state text = .ok (value, rest)) :
    rest.length ≤ text.length := by
  induction fuel generalizing state text with
  | zero => cases h
  | succ fuel ih =>
    unfold iterate at h
    split at h
    · cases h
    · rename_i hstep
      simp only [Except.ok.injEq, Prod.mk.injEq] at h
      obtain ⟨_, rfl⟩ := h
      exact (step state).length_le hstep
    · rename_i hstep
      exact Nat.le_trans (ih h) ((step state).length_le hstep)

/-- Repeats a step until it gives a value.  A step that goes on takes at least one character, so
there are no more steps than characters, and one that ends. -/
def loop (step : σ → Scan (σ ⊕ α)) (state : σ) : Scan α where
  run text := iterate step (text.length + 1) state text
  length_le h := length_le_of_iterate h

/-- More fuel keeps a finished answer. -/
theorem iterate_of_le {step : σ → Scan (σ ⊕ α)} {fuel more : Nat} (hle : fuel ≤ more) {state : σ}
    {text rest : List Char} {value : α} (h : iterate step fuel state text = .ok (value, rest)) :
    iterate step more state text = .ok (value, rest) := by
  induction fuel generalizing more state text with
  | zero => cases h
  | succ fuel ih =>
    obtain ⟨more, rfl⟩ : ∃ n, more = n + 1 := ⟨more - 1, by omega⟩
    unfold iterate at h ⊢
    split at h
    · cases h
    · exact h
    · exact ih (by omega) h

/-! ## Words -/

/-- Takes the letters of a word whose first letter has been taken. -/
def word : List Char → Scan Unit
  | [] => pure ()
  | expected :: more => do
    match ← next with
    | none => fail .eofInValue
    | some c => if c = expected then word more else fail .expectedWord

end Scan

end StubLibc.Json
