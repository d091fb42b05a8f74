import StubLibc.Text.Blank
import StubLibc.Text.Lines

/-!
# Lines of a text in parts

Where a part of a text ends in a line feed, the lines of the text are the lines of that part and
then the lines of the rest: no line runs across the seam, and a carriage return on one side never
joins a line feed on the other.
-/

namespace StubLibc.Text

variable {c : Char} {text rest : List Char}

/-! ## One character more -/

theorem lines_newline (rest : List Char) : lines ('\n' :: rest) = [] :: lines rest := by
  rw [lines]

/-- A carriage return in front of a line feed belongs to the line end. -/
theorem lines_return (h : text.head? = some '\n') : lines ('\r' :: text) = lines text := by
  obtain ⟨rest, rfl⟩ := List.head?_eq_some_iff.mp h
  rw [lines_newline, lines]

theorem lines_ne_nil (h : text ≠ []) : lines text ≠ [] := by
  fun_cases lines text
  all_goals grind

/-- Any other character in front of a text belongs to its first line. -/
theorem lines_cons (hnewline : c ≠ '\n') (hreturn : c = '\r' → text.head? ≠ some '\n')
    (htext : text ≠ []) : lines (c :: text) = (lines text).modifyHead (c :: ·) := by
  have hempty : text.isEmpty = false := List.isEmpty_eq_false_iff.mpr htext
  have hlines := lines_ne_nil htext
  rw [lines.eq_4]
  · cases h : lines text with
    | nil => exact absurd h hlines
    | cons line more =>
      dsimp only
      rw [hempty]
      rfl
  · exact hnewline
  · intro rest hc hrest
    rw [hrest] at hreturn
    exact hreturn hc rfl

/-! ## Texts that end in a line feed -/

/-- A text without line ends is one line. -/
theorem lines_of_unbroken (h : ∀ c ∈ text, c ≠ '\n' ∧ c ≠ '\r') :
    lines (text ++ ['\n']) = [text] := by
  induction text with
  | nil => rw [List.nil_append, lines_newline, lines]
  | cons c text ih =>
    rw [List.forall_mem_cons] at h
    have hreturn : c = '\r' → (text ++ ['\n']).head? ≠ some '\n' := fun hc ↦ absurd hc h.1.2
    rw [List.cons_append, lines_cons h.1.1 hreturn (by simp), ih h.2]
    rfl

/-- The lines of a part that ends in a line feed are lines of the whole. -/
theorem lines_append (text rest : List Char) :
    lines (text ++ '\n' :: rest) = lines (text ++ ['\n']) ++ lines rest := by
  induction text with
  | nil =>
    rw [List.nil_append, List.nil_append, lines_newline, lines_newline, lines]
    rfl
  | cons c text ih =>
    rw [List.cons_append, List.cons_append]
    by_cases hnewline : c = '\n'
    · subst hnewline
      rw [lines_newline, lines_newline, ih, List.cons_append]
    -- A carriage return looks one character ahead, and the texts of both sides agree that far.
    have hhead : (text ++ '\n' :: rest).head? = (text ++ ['\n']).head? := by
      cases text <;> rfl
    by_cases hreturn : c = '\r' ∧ (text ++ ['\n']).head? = some '\n'
    · obtain ⟨rfl, hpart⟩ := hreturn
      rw [lines_return (hhead.trans hpart), lines_return hpart, ih]
    · rw [not_and] at hreturn
      have hwhole : c = '\r' → (text ++ '\n' :: rest).head? ≠ some '\n' := by
        rw [hhead]
        exact hreturn
      rw [lines_cons hnewline hwhole (by simp), lines_cons hnewline hreturn (by simp), ih]
      have hpart : lines (text ++ ['\n']) ≠ [] := lines_ne_nil (by simp)
      cases h : lines (text ++ ['\n']) with
      | nil => exact absurd h hpart
      | cons line more => rfl

end StubLibc.Text
