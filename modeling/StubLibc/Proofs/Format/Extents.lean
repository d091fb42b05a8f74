import StubLibc.Proofs.Argument.Narrowing
import StubLibc.Proofs.Format.Fields

/-!
# Widths and precisions by the standard

A width or a precision is absent, written out, or the argument of a `*`, a signed number of 32 bits.
A negative width is the flag `-` and the width without its sign; a negative precision counts as
none.  A directive whose fields are small enough is laid out by these rules.
-/

namespace StubLibc

/-- An integer of either class is fetched as the signed reading of its word. -/
theorem Cursor.nextInt_cons {arg : Arg} {word : UInt64} (h : arg.asUint? = some word)
    (position : Nat) (rest : List Arg) :
    nextInt ⟨position, arg :: rest⟩ = (.ok word.toInt64, ⟨position + 1, rest⟩) := by
  rw [nextInt, nextAs, next_cons]
  dsimp only
  rw [Arg.asInt?_eq, h, Option.map_some]

theorem Cursor.nextUint_cons {arg : Arg} {word : UInt64} (h : arg.asUint? = some word)
    (position : Nat) (rest : List Arg) :
    nextUint ⟨position, arg :: rest⟩ = (.ok word, ⟨position + 1, rest⟩) := by
  rw [nextUint, nextAs, next_cons]
  dsimp only
  rw [h]

namespace Format

/-- What an extent takes from the front of the arguments, and the number that it asks for. -/
inductive Extent.Takes : Extent → List Arg → Option Int → Prop
  | absent : Takes .absent [] none
  | fixed (value : Nat) : Takes (.fixed value) [] (some value)
  | star {arg : Arg} {word : UInt64} (h : arg.asUint? = some word) :
    Takes .star [arg] (some (signedResidue 32 word))

namespace Standard

/-- The flags under a width: a negative one is left justification. -/
def flags (written : Flags) (width : Option Int) : Flags :=
  if width.getD 0 < 0 then { written with leftJustify := true, zeroPad := false } else written

/-- The width without its sign. -/
def width (asked : Option Int) : Nat := (asked.getD 0).natAbs

/-- The precision, where it is not negative. -/
def precision (asked : Option Int) : Option Nat := (asked.filter (0 ≤ ·)).map Int.toNat

theorem precision_some (asked : Int) :
    precision (some asked) = if asked < 0 then none else some asked.toNat := by
  rw [precision, Option.filter_some]
  by_cases h : asked < 0
  · simp [h]
  · simp [h, Int.not_lt.mp h]

end Standard

namespace Layout

variable {extent : Extent} {taken : List Arg} {asked : Option Int}

theorem fetchWidth_of_takes (h : extent.Takes taken asked) (flags : Flags) (position : Nat)
    (rest : List Arg) :
    fetchWidth flags extent ⟨position, taken ++ rest⟩ =
      (.ok (Standard.flags flags asked, Standard.width asked),
        ⟨position + taken.length, rest⟩) := by
  cases h with
  | absent => rfl
  | fixed value =>
    have hpositive : ¬ (value : Int) < 0 := by omega
    rw [Standard.flags, Standard.width, Option.getD_some, if_neg hpositive]
    rfl
  | star hword =>
    rw [fetchWidth, Fetch.run_bind, Fetch.arg, List.singleton_append, Cursor.nextInt_cons hword]
    dsimp only
    rw [toInt_toInt32_toInt64, Standard.flags, Standard.width, Option.getD_some]
    split <;> rfl

theorem fetchPrecision_of_takes (h : extent.Takes taken asked) (position : Nat)
    (rest : List Arg) :
    fetchPrecision extent ⟨position, taken ++ rest⟩ =
      (.ok (Standard.precision asked), ⟨position + taken.length, rest⟩) := by
  cases h with
  | absent => rfl
  | fixed value => rfl
  | star hword =>
    rw [fetchPrecision, Fetch.run_bind, Fetch.arg, List.singleton_append,
      Cursor.nextInt_cons hword]
    dsimp only
    rw [toInt_toInt32_toInt64, Standard.precision_some]
    rfl

/-- Fields are laid out as they are, if they are small enough. -/
theorem checked_eq_ok_iff {flags : Flags} {width : Nat} {precision : Option Nat}
    {layout : Layout} :
    checked flags width precision = .ok layout ↔
      width ≤ maxField ∧ (∀ value ∈ precision, value ≤ maxField) ∧
        layout = ⟨flags, width, precision⟩ := by
  rcases checked_cases flags width precision with
    ⟨hwidth, hprecision, hchecked⟩ | ⟨value, hvalue, hfield, hchecked⟩
  · rw [hchecked, Except.ok.injEq, eq_comm]
    exact ⟨fun h ↦ ⟨hwidth, hprecision, h⟩, fun h ↦ h.2.2⟩
  · rw [hchecked]
    apply iff_of_false
    · intro h
      cases h
    · rintro ⟨hwidth, hprecision, -⟩
      rcases hfield with rfl | hfield
      · exact Nat.not_lt.mpr hwidth hvalue
      · exact Nat.not_lt.mpr (hprecision value hfield) hvalue

variable {directive : Directive} {widthArgs precisionArgs : List Arg}
  {width precision : Option Int}

/-- A directive whose fields are at most the largest `int` is laid out by the standard's rules. -/
theorem resolve_of_takes (hwidth : directive.width.Takes widthArgs width)
    (hprecision : directive.precision.Takes precisionArgs precision)
    (hwidthMax : Standard.width width ≤ maxField)
    (hprecisionMax : ∀ value ∈ Standard.precision precision, value ≤ maxField) (position : Nat)
    (rest : List Arg) :
    resolve directive ⟨position, widthArgs ++ (precisionArgs ++ rest)⟩ =
      (.ok ⟨Standard.flags directive.flags width, Standard.width width,
          Standard.precision precision⟩,
        ⟨position + widthArgs.length + precisionArgs.length, rest⟩) := by
  rw [resolve_of_fetches (fetchWidth_of_takes hwidth directive.flags position _)
    (fetchPrecision_of_takes hprecision _ rest),
    checked_eq_ok_iff.mpr ⟨hwidthMax, hprecisionMax, rfl⟩]

end Layout

end Format

end StubLibc
