import StubLibc.Proofs.Argument.Drain

/-!
# Where a drain stops

Arguments diverge from a list of classes at a place whose argument is missing, or is of a class that
cannot be read as the one asked for.  A drain ends without a fault exactly where there is no such
place.  A fault is that of the least one, and the cursor stops just past the argument there, or at
the end of the arguments where it is missing.
-/

namespace StubLibc

/-- The argument for the class at `index` is missing, or cannot be read as that class. -/
def ArgKind.Diverges (kinds : List ArgKind) (args : List Arg) (index : Nat) : Prop :=
  ∃ expected ∈ kinds[index]?, ∀ arg ∈ args[index]?, expected.fits arg.kind = false

namespace Cursor

open ArgKind (Diverges)

variable {kind : ArgKind} {kinds more : List ArgKind} {arg : Arg} {args : List Arg}
  {cursor after : Cursor} {fault : ArgFault} {index other : Nat}

instance : Decidable (Diverges kinds args index) :=
  inferInstanceAs (Decidable
    (∃ expected ∈ kinds[index]?, ∀ arg ∈ args[index]?, expected.fits arg.kind = false))

/-- The cursor `count` arguments further on. -/
def advance (cursor : Cursor) (count : Nat) : Cursor :=
  ⟨cursor.position + count, cursor.pending.drop count⟩

theorem advance_cons (position count : Nat) (arg : Arg) (rest : List Arg) :
    advance ⟨position + 1, rest⟩ count = advance ⟨position, arg :: rest⟩ (count + 1) := by
  rw [advance, advance, List.drop_succ_cons, Nat.add_right_comm, Nat.add_assoc]

theorem drain_cons_of_fits (h : kind.fits arg.kind = true) (position : Nat) (rest : List Arg) :
    drain (kind :: more) ⟨position, arg :: rest⟩ = drain more ⟨position + 1, rest⟩ := by
  rw [drain, next_cons]
  exact if_pos h

theorem drain_cons_of_not_fits (h : kind.fits arg.kind = false) (position : Nat)
    (rest : List Arg) :
    drain (kind :: more) ⟨position, arg :: rest⟩ =
      (some (.kindMismatch position kind arg.kind), ⟨position + 1, rest⟩) := by
  rw [drain, next_cons]
  exact if_neg (Bool.not_eq_true _ ▸ h)

/-- What a drain without a fault has fetched. -/
theorem eq_advance_of_drain (h : cursor.drain kinds = (none, after)) :
    kinds.length ≤ cursor.remaining ∧ after = cursor.advance kinds.length := by
  induction kinds generalizing cursor with
  | nil =>
    cases h
    exact ⟨Nat.zero_le _, rfl⟩
  | cons kind more ih =>
    obtain ⟨position, _ | ⟨arg, rest⟩⟩ := cursor
    · cases h
    · cases hfits : kind.fits arg.kind with
      | false =>
        rw [drain_cons_of_not_fits hfits] at h
        cases h
      | true =>
        rw [drain_cons_of_fits hfits] at h
        obtain ⟨hlength, rfl⟩ := ih h
        exact ⟨Nat.succ_le_succ hlength, advance_cons _ _ arg rest⟩

/-! ## The first divergence -/

/-- The least place where arguments diverge. -/
structure FirstDiverges (kinds : List ArgKind) (args : List Arg) (index : Nat) : Prop where
  diverges : Diverges kinds args index
  least : ∀ earlier < index, ¬ Diverges kinds args earlier

theorem FirstDiverges.eq (h : FirstDiverges kinds args index)
    (hother : FirstDiverges kinds args other) : index = other := by
  rcases Nat.lt_trichotomy index other with hlt | heq | hgt
  · exact absurd h.diverges (hother.least index hlt)
  · exact heq
  · exact absurd hother.diverges (h.least other hgt)

theorem FirstDiverges.cons {rest : List Arg} (hfits : kind.fits arg.kind = true)
    (h : FirstDiverges kinds rest index) :
    FirstDiverges (kind :: kinds) (arg :: rest) (index + 1) where
  diverges := h.diverges
  least
    | 0, _ => by
      rintro ⟨_, ⟨⟩, hunfit⟩
      rw [hunfit arg rfl] at hfits
      cases hfits
    | earlier + 1, hlt => h.least earlier (Nat.lt_of_succ_lt_succ hlt)

/-- The fault of a place, and where the cursor stops. -/
inductive FaultsAt (kinds : List ArgKind) (cursor : Cursor) : Nat → ArgFault → Cursor → Prop
  /-- Just past an argument of another class. -/
  | unfit {index : Nat} {expected : ArgKind} {arg : Arg} (hkind : kinds[index]? = some expected)
      (harg : cursor.pending[index]? = some arg) (hunfit : expected.fits arg.kind = false) :
    FaultsAt kinds cursor index
      (.kindMismatch (cursor.position + index) expected arg.kind) (cursor.advance (index + 1))
  /-- At the end of the arguments. -/
  | missing (hfew : cursor.remaining < kinds.length) :
    FaultsAt kinds cursor cursor.remaining
      (.exhausted (cursor.position + cursor.remaining) (cursor.position + cursor.remaining))
      (cursor.advance cursor.remaining)

theorem FaultsAt.cons {position : Nat} {rest : List Arg}
    (h : FaultsAt kinds ⟨position + 1, rest⟩ index fault after) :
    FaultsAt (kind :: kinds) ⟨position, arg :: rest⟩ (index + 1) fault after := by
  cases h with
  | unfit hkind harg hunfit =>
    rw [advance_cons position _ arg, Nat.add_assoc, Nat.add_comm 1]
    exact .unfit hkind harg hunfit
  | missing hfew =>
    rw [advance_cons position _ arg, Nat.add_assoc, Nat.add_comm 1]
    exact .missing (Nat.succ_lt_succ hfew)

/-- A drain that faults has met the first divergence. -/
theorem exists_faultsAt_of_drain (h : cursor.drain kinds = (some fault, after)) :
    ∃ index, FirstDiverges kinds cursor.pending index ∧ FaultsAt kinds cursor index fault after := by
  induction kinds generalizing cursor with
  | nil => cases h
  | cons kind more ih =>
    obtain ⟨position, _ | ⟨arg, rest⟩⟩ := cursor
    · cases h
      exact ⟨0, ⟨⟨kind, rfl, fun _ harg ↦ nomatch harg⟩, fun _ hlt ↦ nomatch hlt⟩,
        .missing (Nat.succ_pos _)⟩
    · cases hfits : kind.fits arg.kind with
      | false =>
        rw [drain_cons_of_not_fits hfits] at h
        cases h
        refine ⟨0, ⟨⟨kind, rfl, ?_⟩, fun _ hlt ↦ nomatch hlt⟩, .unfit rfl rfl hfits⟩
        rintro _ ⟨⟩
        exact hfits
      | true =>
        rw [drain_cons_of_fits hfits] at h
        obtain ⟨index, hfirst, hfault⟩ := ih h
        exact ⟨index + 1, hfirst.cons hfits, hfault.cons⟩

/-- A drain without a fault has met no divergence. -/
theorem not_diverges_of_drain (h : cursor.drain kinds = (none, after)) (index : Nat) :
    ¬ Diverges kinds cursor.pending index := by
  induction kinds generalizing cursor index with
  | nil =>
    rintro ⟨_, hkind, -⟩
    cases hkind
  | cons kind more ih =>
    obtain ⟨position, _ | ⟨arg, rest⟩⟩ := cursor
    · cases h
    · cases hfits : kind.fits arg.kind with
      | false =>
        rw [drain_cons_of_not_fits hfits] at h
        cases h
      | true =>
        rw [drain_cons_of_fits hfits] at h
        cases index with
        | zero =>
          rintro ⟨_, ⟨⟩, hunfit⟩
          rw [hunfit arg rfl] at hfits
          cases hfits
        | succ index => exact ih h index

theorem exists_drain_iff :
    (∃ after, cursor.drain kinds = (none, after)) ↔
      ∀ index, ¬ Diverges kinds cursor.pending index := by
  constructor
  · rintro ⟨after, h⟩
    exact not_diverges_of_drain h
  · intro h
    rcases hdrain : cursor.drain kinds with ⟨_ | fault, after⟩
    · exact ⟨after, rfl⟩
    · obtain ⟨index, hfirst, -⟩ := exists_faultsAt_of_drain hdrain
      exact absurd hfirst.diverges (h index)

end Cursor

end StubLibc
