import StubLibc.Argument.Cursor

/-!
# Draining a cursor along a list of classes

`Cursor.drain` fetches one argument for each class of a list and stops at the first fault.  Typed
fetches are drains of one class, and a list whose arguments have the classes asked for is drained
without a fault.  Nothing is said here about the values that are fetched.
-/

namespace StubLibc

namespace ArgKind

/-- The two classes that are reread as each other. -/
def isInteger (kind : ArgKind) : Bool := kind == int || kind == uint

/-- An argument of class `found` can be read as one of class `expected`. -/
def fits (expected found : ArgKind) : Bool :=
  expected == found || (expected.isInteger && found.isInteger)

@[simp]
theorem fits_self (kind : ArgKind) : kind.fits kind = true := by
  cases kind <;> rfl

end ArgKind

namespace Arg

theorem isSome_asInt? (arg : Arg) : arg.asInt?.isSome = ArgKind.int.fits arg.kind := by
  cases arg <;> rfl

theorem isSome_asUint? (arg : Arg) : arg.asUint?.isSome = ArgKind.uint.fits arg.kind := by
  cases arg <;> rfl

theorem isSome_asDouble? (arg : Arg) : arg.asDouble?.isSome = ArgKind.double.fits arg.kind := by
  cases arg <;> rfl

theorem isSome_asPtr? (arg : Arg) : arg.asPtr?.isSome = ArgKind.ptr.fits arg.kind := by
  cases arg <;> rfl

theorem isSome_asStr? (arg : Arg) : arg.asStr?.isSome = ArgKind.str.fits arg.kind := by
  cases arg <;> rfl

end Arg

namespace Cursor

/-- Fetches one argument for each class, up to the first fault. -/
def drain : List ArgKind → Cursor → Option ArgFault × Cursor
  | [], cursor => (none, cursor)
  | kind :: more, cursor =>
    match cursor.next with
    | (.error fault, after) => (some fault, after)
    | (.ok arg, after) =>
      if kind.fits arg.kind then drain more after
      else (some (.kindMismatch cursor.position kind arg.kind), after)

/-- A drain in two parts: the second part starts where the first one ended without a fault. -/
theorem drain_append (first second : List ArgKind) (cursor : Cursor) :
    cursor.drain (first ++ second) =
      match cursor.drain first with
      | (none, after) => after.drain second
      | (some fault, after) => (some fault, after) := by
  induction first generalizing cursor with
  | nil => rfl
  | cons kind more ih =>
    simp only [List.cons_append, drain]
    split
    · rfl
    · split
      · exact ih _
      · rfl

/-- A typed fetch is a drain of one class. -/
theorem drain_singleton_of_nextAs {α : Type} {expected : ArgKind} {read? : Arg → Option α}
    (hread : ∀ arg, (read? arg).isSome = expected.fits arg.kind) (cursor : Cursor) :
    cursor.drain [expected] =
      match cursor.nextAs expected read? with
      | (.ok _, after) => (none, after)
      | (.error fault, after) => (some fault, after) := by
  obtain ⟨position, _ | ⟨arg, rest⟩⟩ := cursor
  · rfl
  · have hfits := hread arg
    cases hvalue : read? arg with
    | none =>
      rw [hvalue] at hfits
      simp [drain, nextAs, hvalue, ← hfits]
    | some value =>
      rw [hvalue] at hfits
      simp [drain, nextAs, hvalue, ← hfits]

/-- Arguments of exactly the classes asked for are fetched, those and no more. -/
theorem drain_of_map_kind (args rest : List Arg) (position : Nat) :
    drain (args.map Arg.kind) ⟨position, args ++ rest⟩ =
      (none, ⟨position + args.length, rest⟩) := by
  induction args generalizing position with
  | nil => rfl
  | cons arg more ih =>
    simp only [List.map_cons, List.cons_append, drain, next_cons, ArgKind.fits_self, if_true]
    rw [ih (position + 1), List.length_cons]
    congr 2
    omega

end Cursor

end StubLibc
