import StubLibc.Proofs.Argument.Narrowing
import StubLibc.Proofs.Format.Fields
import StubLibc.Proofs.Format.Lockstep

/-!
# The bits that matter

A C argument list passes every integer as a whole word, of which the C type of its use fills only
the low bits; the bits above them are anything.  A `*` reads 32 bits, `c` reads 8, a shown integer
those of its length modifier, and `o` none.  Two argument lists that differ only in other bits, or
in which class of integer a word is passed as, are rendered alike, also where they fail.
-/

namespace StubLibc

/-! ## Words -/

/-- Two words with the same low bits. -/
def SameLow (bits : Nat) (word other : UInt64) : Prop :=
  word.toNat % 2 ^ bits = other.toNat % 2 ^ bits

variable {bits : Nat} {word other : UInt64}

theorem signedResidue_eq_of_sameLow (h : SameLow bits word other) :
    signedResidue bits word = signedResidue bits other := by
  have hemod : (word.toNat : Int) % (2 ^ bits : Nat) = (other.toNat : Int) % (2 ^ bits : Nat) := by
    exact_mod_cast h
  rw [signedResidue, ← Int.emod_bmod, hemod, Int.emod_bmod, signedResidue]

theorem toUInt8_eq_of_sameLow (h : SameLow 8 word other) : word.toUInt8 = other.toUInt8 := by
  apply UInt8.toNat_inj.mp
  rw [UInt64.toNat_toUInt8, UInt64.toNat_toUInt8]
  exact h

theorem toInt32_eq_of_sameLow {value found : Int64}
    (h : SameLow 32 value.toUInt64 found.toUInt64) : value.toInt32 = found.toInt32 := by
  apply Int32.toInt_inj.mp
  rw [toInt_toInt32, toInt_toInt32, signedResidue_eq_of_sameLow h]

/-! ## Arguments -/

namespace Arg

/-- Two integers, of either class, with the same low bits. -/
def SameBits (bits : Nat) (arg other : Arg) : Prop :=
  ∃ word found, arg.asUint? = some word ∧ other.asUint? = some found ∧ SameLow bits word found

/-- What two arguments have in common where only some bits of an integer matter, or where `none`
asks for all of the argument. -/
def Shares : Option Nat → Arg → Arg → Prop
  | none, arg, other => arg = other
  | some bits, arg, other => arg = other ∨ arg.SameBits bits other

theorem shares_refl (bits : Option Nat) (arg : Arg) : Shares bits arg arg := by
  cases bits with
  | none => rfl
  | some bits => exact .inl rfl

/-- Only the arguments in front have to be shared. -/
theorem along_shares_append {bits : List (Option Nat)} {own : List Arg}
    (hlength : own.length = bits.length) (tail others : List Arg) :
    Along (bits.map Shares) (own ++ tail) (own ++ others) := by
  have hrelations : own.length = (bits.map Shares).length := by rwa [List.length_map]
  refine along_append hrelations ?_ tail others
  intro relation hrelation arg
  obtain ⟨count, -, rfl⟩ := List.mem_map.mp hrelation
  exact shares_refl count arg

variable {arg other : Arg}

theorem rel_asUint? (h : Shares (some bits) arg other) :
    Option.Rel (SameLow bits) arg.asUint? other.asUint? := by
  rcases h with rfl | ⟨word, found, hword, hfound, hlow⟩
  · cases arg.asUint? with
    | none => exact .none
    | some word => exact .some rfl
  · rw [hword, hfound]
    exact .some hlow

theorem kind_eq_of_asUint?_eq_none (h : Shares (some bits) arg other) (hnone : arg.asUint? = none) :
    arg.kind = other.kind := by
  rcases h with rfl | ⟨word, found, hword, hfound, hlow⟩
  · rfl
  · rw [hnone] at hword
    cases hword

end Arg

namespace Format

open Fetch

theorem lockstep_nextUint (bits : Nat) :
    Lockstep [Arg.Shares (some bits)] (arg Cursor.nextUint) (arg Cursor.nextUint)
      (SameLow bits) :=
  lockstep_nextAs (fun _ _ ↦ Arg.rel_asUint?) fun _ _ ↦ Arg.kind_eq_of_asUint?_eq_none

/-- Signed readings of words with the same low bits. -/
theorem lockstep_nextInt (bits : Nat) :
    Lockstep [Arg.Shares (some bits)] (arg Cursor.nextInt) (arg Cursor.nextInt)
      fun value found ↦ SameLow bits value.toUInt64 found.toUInt64 := by
  apply lockstep_nextAs
  · intro arg other h
    rw [Arg.asInt?_eq, Arg.asInt?_eq]
    have hwords := Arg.rel_asUint? h
    generalize arg.asUint? = word at hwords ⊢
    generalize other.asUint? = found at hwords ⊢
    cases hwords with
    | none => exact .none
    | some hlow => exact .some hlow
  · intro arg other h hnone
    rw [Arg.asInt?_eq, Option.map_eq_none_iff] at hnone
    exact Arg.kind_eq_of_asUint?_eq_none h hnone

/-! ## Fields -/

/-- The bits that a `*` reads. -/
def Extent.significant : Extent → List (Option Nat)
  | star => [some 32]
  | _ => []

namespace Layout

theorem lockstep_fetchWidth (flags : Flags) (width : Extent) :
    Lockstep (width.significant.map Arg.Shares) (fetchWidth flags width) (fetchWidth flags width)
      Eq := by
  cases width with
  | absent => exact lockstep_pure rfl
  | fixed width => exact lockstep_pure rfl
  | star =>
    refine (lockstep_nextInt 32).bind_pure fun value found hlow ↦ ?_
    rw [toInt32_eq_of_sameLow hlow]
    dsimp only
    split <;> exact lockstep_pure rfl

theorem lockstep_fetchPrecision (precision : Extent) :
    Lockstep (precision.significant.map Arg.Shares) (fetchPrecision precision)
      (fetchPrecision precision) Eq := by
  cases precision with
  | absent => exact lockstep_pure rfl
  | fixed precision => exact lockstep_pure rfl
  | star =>
    refine (lockstep_nextInt 32).bind_pure fun value found hlow ↦ ?_
    rw [toInt32_eq_of_sameLow hlow]
    exact lockstep_pure rfl

theorem lockstep_resolve (directive : Directive) :
    Lockstep ((directive.width.significant ++ directive.precision.significant).map Arg.Shares)
      (resolve directive) (resolve directive) Eq := by
  rw [List.map_append]
  refine (lockstep_fetchWidth _ _).bind ?_
  rintro ⟨flags, width⟩ _ rfl
  refine (lockstep_fetchPrecision _).bind_pure ?_
  rintro precision _ rfl
  refine (lockstep_mk _).bind_pure ?_
  rintro width _ rfl
  refine (lockstep_mk _).bind_pure ?_
  rintro precision _ rfl
  exact lockstep_pure rfl

end Layout

/-! ## Directives -/

namespace Directive

/-- The bits that a conversion reads of the argument it takes for itself; `none` where that is no
integer. -/
def ownSignificant (directive : Directive) : Option Nat :=
  match directive.conversion with
  | .d | .i | .u | .x | .X => some directive.length.bits
  | .c => some 8
  | .o => some 0
  | _ => none

/-- The bits that a directive reads of each argument. -/
def significant (directive : Directive) : List (Option Nat) :=
  directive.width.significant ++ directive.precision.significant ++ [directive.ownSignificant]

variable {directive : Directive}

theorem lockstep_signedField (layout : Layout) :
    Lockstep [Arg.Shares (some directive.length.bits)] (directive.signedField layout)
      (directive.signedField layout) Eq := by
  refine (lockstep_nextInt _).bind_pure fun value found hlow ↦ ?_
  rw [Length.narrowSigned_eq, Length.narrowSigned_eq, signedResidue_eq_of_sameLow hlow]
  exact lockstep_pure rfl

theorem lockstep_unsignedField (layout : Layout) (radix : Radix) (mark : Bytes) :
    Lockstep [Arg.Shares (some directive.length.bits)]
      (directive.unsignedField layout radix mark) (directive.unsignedField layout radix mark)
      Eq := by
  refine (lockstep_nextUint _).bind_pure fun word found hlow ↦ ?_
  have hvalue : directive.length.narrowUnsigned word = directive.length.narrowUnsigned found := by
    rw [Length.narrowUnsigned_eq, Length.narrowUnsigned_eq]
    exact hlow
  rw [hvalue]
  exact lockstep_pure rfl

theorem lockstep_charField :
    Lockstep [Arg.Shares (some 8)] charField charField Eq := by
  refine (lockstep_nextInt 8).bind_pure fun value found hlow ↦ ?_
  rw [toUInt8_eq_of_sameLow hlow]
  exact lockstep_pure rfl

/-- An unprinted integer is fetched and not looked at. -/
theorem lockstep_skip (directive : Directive) :
    Lockstep [Arg.Shares (if directive.conversion.argKind = .uint then some 0 else none)]
      directive.skip directive.skip Eq := by
  unfold skip
  dsimp only
  generalize directive.conversion.argKind = kind
  refine Lockstep.refuse _ ?_
  cases kind with
  | uint => exact (lockstep_nextUint 0).bind_pure fun _ _ _ ↦ lockstep_pure rfl
  | int | double | ptr | str =>
    exact (lockstep_nextAs_eq _ _).bind_pure fun _ _ _ ↦ lockstep_pure rfl

theorem lockstep_field? {layout : Layout} {field : Fetch Field}
    (h : directive.field? layout = some field) :
    Lockstep [Arg.Shares directive.ownSignificant] field field Eq := by
  rw [field?] at h
  rw [ownSignificant]
  cases hconversion : directive.conversion <;> rw [hconversion] at h <;> cases h
  case d | i => exact lockstep_signedField layout
  case u | x | X => exact lockstep_unsignedField layout _ _
  case c => exact lockstep_charField
  case s | p => exact (lockstep_nextAs_eq _ _).bind_pure fun _ _ h ↦ h ▸ lockstep_pure rfl

theorem ownSignificant_of_field?_eq_none {layout : Layout} (h : directive.field? layout = none) :
    directive.ownSignificant =
      if directive.conversion.argKind = .uint then some 0 else none := by
  rw [field?] at h
  rw [ownSignificant]
  cases hconversion : directive.conversion <;> rw [hconversion] at h
  case d | i | u | x | X | c | s | p => cases h
  all_goals rfl

theorem lockstep_renderOwn (directive : Directive) (layout : Layout) :
    Lockstep [Arg.Shares directive.ownSignificant] (directive.renderOwn layout)
      (directive.renderOwn layout) Eq := by
  rw [renderOwn]
  cases hfield : directive.field? layout with
  | some field => exact (lockstep_field? hfield).bind_pure fun _ _ h ↦ h ▸ lockstep_pure rfl
  | none =>
    rw [ownSignificant_of_field?_eq_none hfield]
    exact lockstep_skip directive

theorem lockstep_render (directive : Directive) :
    Lockstep (directive.significant.map Arg.Shares) directive.render directive.render Eq := by
  rw [significant, List.map_append]
  refine (Layout.lockstep_resolve directive).bind ?_
  rintro layout _ rfl
  exact lockstep_renderOwn directive layout

end Directive

/-! ## Whole formats -/

namespace Segment

/-- The bits that a segment reads of each argument. -/
def significant : Segment → List (Option Nat)
  | literal _ => []
  | percent => []
  | directive spec => spec.significant

theorem lockstep_render (segment : Segment) :
    Lockstep (segment.significant.map Arg.Shares) segment.render segment.render Eq := by
  cases segment with
  | literal bytes => exact lockstep_pure rfl
  | percent => exact lockstep_pure rfl
  | directive spec => exact spec.lockstep_render

end Segment

/-- Only integers are read in part. -/
theorem Segment.map_isSome_significant (segment : Segment) :
    segment.significant.map Option.isSome = segment.slots.map fun slot ↦ slot.kind.isInteger := by
  have hextent (extent : Extent) : extent.significant.map Option.isSome =
      (Slot.ofExtent extent).map fun slot ↦ slot.kind.isInteger := by
    cases extent <;> rfl
  have hown (directive : Directive) : directive.ownSignificant.isSome =
      (Slot.ofConversion directive).kind.isInteger := by
    unfold Directive.ownSignificant Slot.ofConversion
    cases directive.conversion <;> rfl
  cases segment with
  | literal bytes => rfl
  | percent => rfl
  | directive spec =>
    simp only [significant, slots, Directive.significant, Slot.ofDirective, List.map_append,
      List.map_singleton, hextent, hown]

theorem Segment.length_significant (segment : Segment) :
    segment.significant.length = segment.slots.length := by
  simpa only [List.length_map] using congrArg List.length segment.map_isSome_significant

variable {format : Bytes} {slots : List Slot}

/-- Where a format is planned, every integer slot has its significant bits.  Argument lists of one
length, equal but for integers of equal significant bits, are rendered to the same bytes and
skipped conversions, or refused with the same error. -/
theorem renderFormat_eq_of_sameBits
    (hslots : Slot.ofSegments (Segment.ofFormat format) = .ok slots) :
    let bits := (Segment.ofFormat format).flatMap Segment.significant
    bits.map Option.isSome = (slots.map fun slot ↦ slot.kind.isInteger) ∧
      ∀ args others : List Arg, args.length = others.length →
        (∀ (i : Nat) (arg other : Arg), args[i]? = some arg → others[i]? = some other →
          arg = other ∨ ∃ count, bits[i]? = some (some count) ∧ arg.SameBits count other) →
        renderFormat format args = renderFormat format others := by
  intro bits
  refine ⟨?_, fun args others hlength hagree ↦ ?_⟩
  · rw [(of_ofSegments_eq_ok hslots).2, List.map_flatMap, List.map_flatMap]
    exact congrArg (List.flatMap · _) (funext Segment.map_isSome_significant)
  have hsegments : List.Forall₂
      (fun segment own ↦ Lockstep own segment.render segment.render Eq) (Segment.ofFormat format)
      ((Segment.ofFormat format).map fun segment ↦ segment.significant.map Arg.Shares) := by
    rw [List.forall₂_map_right_iff, List.forall₂_same]
    exact fun segment _ ↦ segment.lockstep_render
  have hflatten : ((Segment.ofFormat format).map fun segment ↦
      segment.significant.map Arg.Shares).flatten = bits.map Arg.Shares := by
    rw [List.map_flatMap]
    rfl
  refine renderFormat_eq_of_same (render_same_of_lockstep hsegments ?_ 0)
  rw [hflatten]
  apply Arg.along_of_getElem? hlength
  intro i relation arg other hrelation harg hother
  rw [List.getElem?_map, Option.map_eq_some_iff] at hrelation
  obtain ⟨count, hcount, rfl⟩ := hrelation
  rcases hagree i arg other harg hother with rfl | ⟨found, hfound, hsame⟩
  · exact Arg.shares_refl count arg
  · rw [hcount, Option.some.injEq] at hfound
    rw [hfound]
    exact .inr hsame

/-- A `*` width, a signed char, a character and an unprinted number, each with other bits above
those that matter, and three of them as the other class of integer. -/
theorem renderFormat_eq_of_sameBits_upper :
    let format := Bytes.ofAscii ['%', '*', 'h', 'h', 'd', '%', 'c', '%', 'l', 'o']
    let args : List Arg := [.int 4, .int (-1), .int 65, .uint 7]
    let others : List Arg := [.uint 0x700000004, .uint 0x1FF, .int 0x141, .int (-9)]
    Slot.ofSegments (Segment.ofFormat format) = .ok [.int, .int, .int, .uint] ∧
      args.length = others.length ∧ renderFormat format args = renderFormat format others ∧
      renderFormat format args = .ok (Bytes.ofAscii [' ', ' ', '-', '1', 'A'], [.o]) := by
  intro format args others
  have hslots : Slot.ofSegments (Segment.ofFormat format) = .ok [.int, .int, .int, .uint] := by
    decide +kernel
  have hbits : (Segment.ofFormat format).flatMap Segment.significant =
      [some 32, some 8, some 8, some 0] := by
    decide +kernel
  refine ⟨hslots, rfl, (renderFormat_eq_of_sameBits hslots).2 args others rfl ?_, ?_⟩
  · rw [hbits]
    intro i arg other harg hother
    match i, harg, hother with
    | 0, rfl, rfl => exact .inr ⟨32, rfl, _, _, rfl, rfl, rfl⟩
    | 1, rfl, rfl => exact .inr ⟨8, rfl, _, _, rfl, rfl, rfl⟩
    | 2, rfl, rfl => exact .inr ⟨8, rfl, _, _, rfl, rfl, rfl⟩
    | 3, rfl, rfl => exact .inr ⟨0, rfl, _, _, rfl, rfl, rfl⟩
  · decide +kernel

end Format

end StubLibc
