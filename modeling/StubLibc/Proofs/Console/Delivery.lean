import StubLibc.Console.Descriptor

/-!
# What a delivery leaves behind

However many writes it takes, a delivery to a descriptor puts down the longest prefix that the
descriptor has room for.  `Descriptor.accept` is that effect in one step; accepting two payloads
one after the other is accepting them as one, so a run can be told by what was offered alone.
-/

namespace StubLibc.Console

namespace Descriptor

/-- How many of some bytes a descriptor has room for. -/
def fits (bytes : Bytes) (descriptor : Descriptor) : Nat :=
  match descriptor.room with
  | none => bytes.length
  | some room => min room bytes.length

/-- The descriptor after as many of the bytes as it has room for. -/
def accept (bytes : Bytes) (descriptor : Descriptor) : Descriptor where
  content := descriptor.content ++ bytes.take (descriptor.fits bytes)
  room := descriptor.room.map (· - bytes.length)

theorem fits_le_length (bytes : Bytes) (descriptor : Descriptor) :
    descriptor.fits bytes ≤ bytes.length := by
  unfold fits
  split
  · exact Nat.le_refl _
  · exact Nat.min_le_right _ _

@[simp]
theorem fits_nil (descriptor : Descriptor) : descriptor.fits [] = 0 :=
  Nat.le_zero.mp (fits_le_length [] descriptor)

@[simp]
theorem accept_nil (descriptor : Descriptor) : descriptor.accept [] = descriptor := by
  obtain ⟨content, room⟩ := descriptor
  cases room <;> simp [accept]

theorem accept_open (bytes content : Bytes) :
    accept bytes ⟨content, none⟩ = ⟨content ++ bytes, none⟩ := by
  simp [accept, fits]

theorem accept_limited (bytes content : Bytes) (room : Nat) :
    accept bytes ⟨content, some room⟩ =
      ⟨content ++ bytes.take room, some (room - bytes.length)⟩ := by
  simp only [accept, fits, Option.map_some, ← List.take_eq_take_min]

theorem content_accept_of_open {descriptor : Descriptor} (h : descriptor.room = none)
    (bytes : Bytes) : (descriptor.accept bytes).content = descriptor.content ++ bytes := by
  obtain ⟨content, room⟩ := descriptor
  cases h
  rw [accept_open]

/-- Payloads that follow each other are one payload. -/
theorem accept_append (first second : Bytes) (descriptor : Descriptor) :
    descriptor.accept (first ++ second) = (descriptor.accept first).accept second := by
  obtain ⟨content, room⟩ := descriptor
  cases room with
  | none => rw [accept_open, accept_open, accept_open, List.append_assoc]
  | some room =>
    calc
      accept (first ++ second) ⟨content, some room⟩ =
          ⟨content ++ (first ++ second).take room, some (room - (first ++ second).length)⟩ :=
        accept_limited _ _ _
      _ = ⟨content ++ first.take room ++ second.take (room - first.length),
            some (room - first.length - second.length)⟩ := by
        rw [List.take_append, List.length_append, List.append_assoc, Nat.sub_add_eq]
      _ = accept second (accept first ⟨content, some room⟩) := by
        rw [accept_limited, accept_limited]

/-- One write takes what fits and is refused when nothing does. -/
theorem write_eq {bytes : Bytes} (hbytes : bytes ≠ []) (descriptor : Descriptor) :
    descriptor.write bytes =
      (if descriptor.fits bytes = 0 then -1 else ((descriptor.fits bytes : Nat) : Int),
        descriptor.accept bytes) := by
  have hlength : bytes.length ≠ 0 := fun h ↦ hbytes (List.length_eq_zero_iff.mp h)
  obtain ⟨content, room⟩ := descriptor
  cases room with
  | none => simp [write, fits, accept_open, hbytes]
  | some room =>
    have hfits : fits bytes ⟨content, some room⟩ = min room bytes.length := rfl
    rw [accept_limited, hfits, write]
    dsimp only
    by_cases htaken : min room bytes.length = 0
    · have hroom : room = 0 := by omega
      subst hroom
      simp
    · have hleft : room - min room bytes.length = room - bytes.length := by omega
      rw [if_neg htaken, if_neg htaken, ← List.take_eq_take_min, hleft]

theorem fits_drop_accept (bytes : Bytes) (descriptor : Descriptor) :
    (descriptor.accept bytes).fits (bytes.drop (descriptor.fits bytes)) = 0 := by
  obtain ⟨content, room⟩ := descriptor
  cases room with
  | none => simp [accept_open, fits]
  | some room =>
    rw [accept_limited]
    simp only [fits, List.length_drop]
    omega

theorem accept_of_fits_eq_zero {bytes : Bytes} {descriptor : Descriptor}
    (h : descriptor.fits bytes = 0) : descriptor.accept bytes = descriptor := by
  obtain ⟨content, room⟩ := descriptor
  cases room with
  | none =>
    have hbytes : bytes = [] := List.length_eq_zero_iff.mp h
    rw [hbytes, accept_nil]
  | some room =>
    have hleft : room - bytes.length = room := by
      simp only [fits] at h
      omega
    rw [accept, h, List.take_zero, List.append_nil, Option.map_some, hleft]

/-- A delivery that finds no room ends with its first write. -/
theorem deliver_of_fits_eq_zero {bytes : Bytes} {descriptor : Descriptor}
    (h : descriptor.fits bytes = 0) : deliver write bytes descriptor = (0, descriptor) := by
  unfold deliver
  split
  · rfl
  · next hbytes =>
    rw [write_eq hbytes, if_pos h, accept_of_fits_eq_zero h]
    rfl

/-- Repeated writes leave behind what one acceptance does. -/
theorem deliver_write (bytes : Bytes) (descriptor : Descriptor) :
    deliver write bytes descriptor = (descriptor.fits bytes, descriptor.accept bytes) := by
  by_cases hfits : descriptor.fits bytes = 0
  · rw [deliver_of_fits_eq_zero hfits, hfits, accept_of_fits_eq_zero hfits]
  -- The first write takes all that fits, so the delivery of the rest finds no room.
  have hrest := deliver_of_fits_eq_zero (fits_drop_accept bytes descriptor)
  have hbytes : bytes ≠ [] := by
    intro hempty
    rw [hempty, fits_nil] at hfits
    exact hfits rfl
  have htaken : ¬ ((descriptor.fits bytes : Nat) : Int) ≤ 0 := by omega
  unfold deliver
  rw [dif_neg hbytes, write_eq hbytes, if_neg hfits]
  dsimp only
  rw [dif_neg htaken, Int.toNat_natCast, hrest]
  rfl

/-! ## What a descriptor does not take -/

/-- The descriptor has no room for any of the bytes. -/
def Refuses (bytes : Bytes) (descriptor : Descriptor) : Prop :=
  descriptor.fits bytes = 0 ∧ bytes ≠ []

instance (bytes : Bytes) (descriptor : Descriptor) : Decidable (descriptor.Refuses bytes) :=
  inferInstanceAs (Decidable (_ ∧ _))

/-- The descriptor takes the first of the bytes and not the last. -/
def CutsShort (bytes : Bytes) (descriptor : Descriptor) : Prop :=
  ∃ room, descriptor.room = some room ∧ 0 < room ∧ room < bytes.length

/-- A descriptor takes all bytes, or it refuses them or cuts them short. -/
theorem fits_eq_length_iff {bytes : Bytes} {descriptor : Descriptor} :
    descriptor.fits bytes = bytes.length ↔
      ¬ descriptor.Refuses bytes ∧ ¬ descriptor.CutsShort bytes := by
  unfold Refuses CutsShort
  obtain ⟨content, room⟩ := descriptor
  rw [ne_eq, ← List.length_eq_zero_iff]
  cases room with
  | none =>
    have hfits : fits bytes ⟨content, none⟩ = bytes.length := rfl
    apply iff_of_true hfits
    constructor
    · rw [hfits]
      exact fun h ↦ h.2 h.1
    · rintro ⟨room, hroom, _⟩
      cases hroom
  | some room =>
    have hfits : fits bytes ⟨content, some room⟩ = min room bytes.length := rfl
    rw [hfits]
    simp only [Option.some.injEq, exists_eq_left']
    omega

theorem Refuses.not_cutsShort {bytes : Bytes} {descriptor : Descriptor}
    (h : descriptor.Refuses bytes) : ¬ descriptor.CutsShort bytes := by
  rintro ⟨room, hroom, hpos, hlt⟩
  have hfits := h.1
  rw [fits, hroom] at hfits
  dsimp only at hfits
  omega

end Descriptor

/-! ## Devices within devices -/

/-- A delivery to a part of a device is a delivery to the device. -/
theorem deliver_map {σ τ : Type} {inner : Bytes → σ → Int × σ} {outer : Bytes → τ → Int × τ}
    {embed : σ → τ}
    (hwrite : ∀ bytes part, outer bytes (embed part) = (inner bytes part).map id embed)
    (bytes : Bytes) (part : σ) :
    deliver outer bytes (embed part) = (deliver inner bytes part).map id embed := by
  fun_induction deliver inner bytes part with
  | case1 part =>
    rw [deliver, dif_pos rfl]
    rfl
  | case2 bytes part hbytes taken after hinner hrefused =>
    rw [deliver, dif_neg hbytes, hwrite, hinner]
    exact dif_pos hrefused
  | case3 bytes part hbytes taken after hinner hrefused more final hmore ih =>
    rw [deliver, dif_neg hbytes, hwrite, hinner]
    dsimp only [Prod.map, id]
    rw [dif_neg hrefused, ih, hmore]
    rfl

end StubLibc.Console
