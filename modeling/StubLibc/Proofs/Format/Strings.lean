import StubLibc.Proofs.Format.Significant
import StubLibc.Proofs.Format.Texts

/-!
# Strings under a precision

A string directive with a precision need not be given a terminated string, so the string is read
under a bound when the arguments are collected, before anything is laid out.  The bound is the
precision that the directive is laid out with later: the one that is written, or the low 32 bits of
the word just before the string where these are not negative.  What the bound cuts off would not be
shown, so collecting without bounds renders the same.
-/

namespace StubLibc.Format

/-! ## Collections in parts -/

namespace Slot

/-- What a list holds after the arguments of some slots. -/
def rest (slots : List Slot) (list : VaList) : VaList :=
  slots.foldl (fun list slot ↦ (slot.fetch none list).2) list

/-- The slot without a bound on what is read. -/
def unbounded : Slot → Slot
  | str _ => str .terminated
  | slot => slot

theorem snd_fetch (slot : Slot) (previous : Option Arg) (list : VaList) :
    (slot.fetch previous list).2 = (slot.fetch none list).2 := by
  cases slot <;> rfl

theorem rest_append (first second : List Slot) (list : VaList) :
    rest (first ++ second) list = rest second (rest first list) :=
  List.foldl_append

theorem rest_map_unbounded (slots : List Slot) (list : VaList) :
    rest (slots.map unbounded) list = rest slots list := by
  have hfetch (list : VaList) (slot : Slot) :
      (slot.unbounded.fetch none list).2 = (slot.fetch none list).2 := by
    cases slot <;> rfl
  simp only [rest, List.foldl_map, hfetch]

/-- The slots behind others are collected from what these leave, after the last of their
arguments. -/
theorem collectAfter_append (previous : Option Arg) (first second : List Slot) (list : VaList) :
    collectAfter previous (first ++ second) list =
      collectAfter previous first list ++
        collectAfter ((collectAfter previous first list).getLast?.or previous) second
          (rest first list) := by
  induction first generalizing previous list with
  | nil => rfl
  | cons slot more ih =>
    have hlast (arg : Arg) (args : List Arg) :
        (arg :: args).getLast?.or previous = args.getLast?.or (some arg) := by
      rw [List.getLast?_cons]
      cases args.getLast? <;> rfl
    simp only [List.cons_append, collectAfter, ih, hlast, rest, List.foldl_cons,
      snd_fetch slot previous]

theorem unbounded_of_kind_ne_str {slot : Slot} (h : slot.kind ≠ .str) : slot.unbounded = slot := by
  cases slot with
  | str limit => exact absurd rfl h
  | _ => rfl

/-- Only a string looks at the argument before it, for its bound. -/
theorem collectAfter_of_kind_ne_str {slots : List Slot} (h : ∀ slot ∈ slots, slot.kind ≠ .str)
    (previous other : Option Arg) (list : VaList) :
    collectAfter previous slots list = collectAfter other (slots.map unbounded) list := by
  induction slots generalizing previous other list with
  | nil => rfl
  | cons slot more ih =>
    rw [List.forall_mem_cons] at h
    have hfetch : slot.fetch previous list = slot.fetch other list := by
      cases slot with
      | str limit => exact absurd rfl h.1
      | _ => rfl
    rw [List.map_cons, unbounded_of_kind_ne_str h.1, collectAfter, collectAfter, hfetch]
    exact congrArg _ (ih h.2 _ _ _)

theorem kind_of_mem_ofExtent {extent : Extent} {slot : Slot} (h : slot ∈ ofExtent extent) :
    slot.kind = .int := by
  cases extent with
  | star =>
    rw [List.mem_singleton.mp h]
    rfl
  | _ => cases h

end Slot

theorem Conversion.argKind_eq_str_iff (conversion : Conversion) :
    conversion.argKind = .str ↔ conversion = .s := by
  cases conversion <;> decide

/-! ## The precision of a string -/

/-- The number that an extent asks for, with the next word of a list for a `*`. -/
def Extent.asked (list : VaList) : Extent → Option Int
  | absent => none
  | fixed value => some value
  | star => some (signedResidue 32 list.nextWord.1.bits)

theorem Extent.takes_collectAfter (extent : Extent) (previous : Option Arg) (list : VaList) :
    extent.Takes (Slot.collectAfter previous (Slot.ofExtent extent) list) (extent.asked list) := by
  cases extent with
  | absent => exact .absent
  | fixed value => exact .fixed value
  | star => exact .star rfl

/-- The bound on a string is the precision of its directive, whatever comes before the `*`. -/
theorem bound?_getLast? (front : List Slot) (extent : Extent) (previous : Option Arg)
    (list : VaList) :
    (Slot.strLimit extent).bound?
        ((Slot.collectAfter previous (front ++ Slot.ofExtent extent) list).getLast?.or previous) =
      Standard.precision (extent.asked (Slot.rest front list)) := by
  rw [Slot.collectAfter_append, List.getLast?_append, Option.or_assoc]
  cases extent with
  | absent => rfl
  | fixed value => rfl
  | star =>
    rw [Extent.asked, Standard.precision_some, ← toInt_toInt32_toInt64]
    simp only [← Int32.toInt_zero, ← Int32.lt_iff_toInt_lt]
    rfl

/-! ## String directives -/

namespace Directive

/-- The precision of a directive whose arguments are next in a list. -/
def precisionIn (directive : Directive) (list : VaList) : Option Nat :=
  Standard.precision (directive.precision.asked (Slot.rest (Slot.ofExtent directive.width) list))

/-- The pointer that a directive takes from a list, after its `*` arguments. -/
def pointerIn (directive : Directive) (list : VaList) : Pointer :=
  (Slot.rest directive.starSlots list).nextWord.1.pointer

variable {directive : Directive}

theorem ofDirective_of_str (h : directive.conversion = .s) :
    Slot.ofDirective directive =
      directive.starSlots ++ [.str (Slot.strLimit directive.precision)] := by
  rw [Slot.ofDirective, Slot.ofConversion, h]
  rfl

/-- The string of a directive is collected up to the precision of the directive. -/
theorem collectAfter_of_str (h : directive.conversion = .s) (previous : Option Arg)
    (list : VaList) :
    Slot.collectAfter previous (Slot.ofDirective directive) list =
      Slot.collectAfter previous directive.starSlots list ++
        [.str (CString.bounded? (directive.pointerIn list) (directive.precisionIn list))] := by
  rw [ofDirective_of_str h, Slot.collectAfter_append, precisionIn, ← bound?_getLast? _ _ previous]
  rfl

theorem collectAfter_unbounded_of_str (h : directive.conversion = .s) (previous : Option Arg)
    (list : VaList) :
    Slot.collectAfter previous ((Slot.ofDirective directive).map Slot.unbounded) list =
      Slot.collectAfter previous (directive.starSlots.map Slot.unbounded) list ++
        [.str (CString.bytes? (directive.pointerIn list))] := by
  rw [ofDirective_of_str h, List.map_append, Slot.collectAfter_append, Slot.rest_map_unbounded]
  rfl

theorem kind_of_mem_starSlots {slot : Slot} (h : slot ∈ directive.starSlots) :
    slot.kind = .int :=
  (List.mem_append.mp h).elim Slot.kind_of_mem_ofExtent Slot.kind_of_mem_ofExtent

theorem collectAfter_starSlots (directive : Directive) (previous other : Option Arg)
    (list : VaList) :
    Slot.collectAfter previous directive.starSlots list =
      Slot.collectAfter other (directive.starSlots.map Slot.unbounded) list := by
  apply Slot.collectAfter_of_kind_ne_str
  intro slot hslot
  rw [kind_of_mem_starSlots hslot]
  decide

/-- A string directive shows its string cut to the precision, if its fields are small enough. -/
theorem fst_render_of_str (h : directive.conversion = .s) (previous : Option Arg) (list : VaList)
    (position : Nat) (text : Option Bytes) (tail : List Arg) :
    (directive.render ⟨position,
        Slot.collectAfter previous directive.starSlots list ++ .str text :: tail⟩).1 =
      (Layout.checked (Standard.flags directive.flags (directive.width.asked list))
          (Standard.width (directive.width.asked list)) (directive.precisionIn list)).map
        fun layout ↦ .shown
          (layout.text (CString.cut (directive.precisionIn list) (text.getD nullText))) := by
  have hwidth := directive.width.takes_collectAfter previous list
  have hprecision := directive.precision.takes_collectAfter
    ((Slot.collectAfter previous (Slot.ofExtent directive.width) list).getLast?.or previous)
    (Slot.rest (Slot.ofExtent directive.width) list)
  rw [starSlots, Slot.collectAfter_append, List.append_assoc, render, Fetch.run_bind,
    Layout.resolve_of_fetches (Layout.fetchWidth_of_takes hwidth directive.flags position _)
      (Layout.fetchPrecision_of_takes hprecision _ _), ← precisionIn]
  cases hchecked : Layout.checked (Standard.flags directive.flags (directive.width.asked list))
      (Standard.width (directive.width.asked list)) (directive.precisionIn list) with
  | error error => rfl
  | ok layout =>
    obtain ⟨-, -, rfl⟩ := Layout.checked_eq_ok_iff.mp hchecked
    exact congrArg Prod.fst (renderOwn_of_field? (by rw [field?, h]) (strField_apply _ _ _ _))

end Directive

/-! ## Whole formats -/

namespace Segment

variable {segment : Segment}

/-- Behind its own arguments a segment looks at nothing. -/
theorem fst_render_append (segment : Segment) {own : List Arg}
    (hown : own.map Arg.kind = segment.slots.map Slot.kind) (position : Nat)
    (tail others : List Arg) :
    (segment.render ⟨position, own ++ tail⟩).1 = (segment.render ⟨position, own ++ others⟩).1 := by
  have hkinds := congrArg List.length hown
  rw [List.length_map, List.length_map, ← segment.length_significant] at hkinds
  have hargs := Arg.along_shares_append hkinds tail others
  rw [← List.append_nil (segment.significant.map Arg.Shares)] at hargs
  exact (segment.lockstep_render [] position _ _ hargs).fst_eq

/-- Only string directives take strings. -/
theorem exists_str_or_kind_ne_str (segment : Segment) :
    (∃ spec, segment = directive spec ∧ spec.conversion = .s) ∨
      ∀ slot ∈ segment.slots, slot.kind ≠ .str := by
  cases segment with
  | literal bytes => exact .inr fun _ hslot ↦ nomatch hslot
  | percent => exact .inr fun _ hslot ↦ nomatch hslot
  | directive spec =>
    by_cases hstr : spec.conversion = .s
    · exact .inl ⟨spec, rfl, hstr⟩
    · right
      intro slot hslot
      rcases List.mem_append.mp hslot with hstar | hown
      · rw [Directive.kind_of_mem_starSlots hstar]
        decide
      · rw [List.mem_singleton.mp hown, Slot.kind_ofConversion, ne_eq,
          Conversion.argKind_eq_str_iff]
        exact hstr

/-- A segment renders its arguments as those that are collected without bounds. -/
theorem fst_render_collectAfter (segment : Segment) (previous other : Option Arg) (list : VaList)
    (position : Nat) (tail others : List Arg) :
    (segment.render ⟨position, Slot.collectAfter previous segment.slots list ++ tail⟩).1 =
      (segment.render ⟨position,
        Slot.collectAfter other (segment.slots.map Slot.unbounded) list ++ others⟩).1 := by
  rcases segment.exists_str_or_kind_ne_str with ⟨spec, rfl, hstr⟩ | hkind
  · -- The bound is the precision, so what it leaves out is not shown.
    have hcut (precision : Option Nat) (text : Option Bytes) :
        CString.cut precision ((text.map (CString.cut precision)).getD Directive.nullText) =
          CString.cut precision (text.getD Directive.nullText) := by
      cases text with
      | none => rfl
      | some text => exact CString.cut_cut precision text
    simp only [render, slots, Directive.collectAfter_of_str hstr,
      Directive.collectAfter_unbounded_of_str hstr, List.append_assoc, List.singleton_append,
      ← spec.collectAfter_starSlots previous other, Directive.fst_render_of_str hstr,
      CString.bounded?_eq, hcut]
  · rw [← Slot.collectAfter_of_kind_ne_str hkind previous other]
    exact segment.fst_render_append (Slot.map_kind_collectAfter _ _ _) position tail others

/-- A segment that renders has fetched its own arguments. -/
theorem snd_render_append (hshort : ¬ segment.isLongDouble = true) {own tail : List Arg}
    (hown : own.map Arg.kind = segment.slots.map Slot.kind) {position : Nat} {piece : Piece}
    (h : (segment.render ⟨position, own ++ tail⟩).1 = .ok piece) :
    (segment.render ⟨position, own ++ tail⟩).2 = ⟨position + segment.slots.length, tail⟩ := by
  have hlength : own.length = segment.slots.length := by
    simpa using congrArg List.length hown
  have hdrain := Cursor.drain_of_map_kind own tail position
  have hwalked := Segment.follows_render hshort ⟨position, own ++ tail⟩
  rw [hown, hlength] at hdrain
  generalize segment.render ⟨position, own ++ tail⟩ = outcome at h hwalked ⊢
  cases hwalked with
  | ok hafter =>
    rw [hdrain, Prod.mk.injEq] at hafter
    exact hafter.2.symm
  | argument => cases h
  | fieldOverflow => cases h

end Segment

theorem Slot.map_kind_unbounded (slots : List Slot) :
    (slots.map unbounded).map kind = slots.map kind := by
  rw [List.map_map]
  exact List.map_congr_left fun slot _ ↦ by cases slot <;> rfl

/-- Planned segments render their arguments as those that are collected without bounds. -/
theorem render_collectAfter_same {segments : List Segment} (hshort : ¬ HasLongDouble segments)
    (previous other : Option Arg) (list : VaList) (position : Nat) :
    (render segments ⟨position,
        Slot.collectAfter previous (segments.flatMap Segment.slots) list⟩).Same
      (render segments ⟨position,
        Slot.collectAfter other ((segments.flatMap Segment.slots).map Slot.unbounded) list⟩) := by
  induction segments generalizing previous other list position with
  | nil => exact ⟨rfl, rfl⟩
  | cons segment rest ih =>
    rw [hasLongDouble_cons, not_or] at hshort
    rw [List.flatMap_cons, List.map_append, Slot.collectAfter_append, Slot.collectAfter_append,
      Slot.rest_map_unbounded]
    have hfirst := segment.fst_render_collectAfter previous other list position
    refine render_cons_same (hfirst _ _) fun piece hpiece ↦ ?_
    have hkinds := Slot.map_kind_collectAfter segment.slots previous list
    have hwhole := Slot.map_kind_collectAfter (segment.slots.map Slot.unbounded) other list
    rw [Slot.map_kind_unbounded] at hwhole
    rw [Segment.snd_render_append hshort.1 hkinds hpiece,
      Segment.snd_render_append hshort.1 hwhole ((hfirst _ _).symm.trans hpiece)]
    exact ih hshort.2 _ _ _ _

/-- A string slot is the last slot of a string directive. -/
theorem exists_directive_of_str {segments : List Segment} {earlier more : List Slot}
    {limit : StrLimit} (h : segments.flatMap Segment.slots = earlier ++ .str limit :: more) :
    ∃ before directive after, segments = before ++ .directive directive :: after ∧
      directive.conversion = .s ∧
      earlier = before.flatMap Segment.slots ++ directive.starSlots ∧
      limit = Slot.strLimit directive.precision := by
  induction segments generalizing earlier with
  | nil => simp at h
  | cons segment rest ih =>
    rw [List.flatMap_cons, List.append_eq_append_iff] at h
    rcases h with ⟨behind, rfl, hrest⟩ | ⟨own, hslots, hown⟩
    · obtain ⟨before, spec, after, rfl, hstr, rfl, hlimit⟩ := ih hrest
      exact ⟨segment :: before, spec, after, rfl, hstr, by simp, hlimit⟩
    · cases own with
      | nil =>
        have hrest : rest.flatMap Segment.slots = [] ++ .str limit :: more := hown.symm
        obtain ⟨before, spec, after, rfl, hstr, hearlier, hlimit⟩ := ih hrest
        refine ⟨segment :: before, spec, after, rfl, hstr, ?_, hlimit⟩
        rw [List.flatMap_cons, List.append_assoc, ← hearlier, hslots, List.append_nil,
          List.append_nil]
      | cons slot own =>
        obtain ⟨rfl, -⟩ := List.cons.inj hown
        rcases segment.exists_str_or_kind_ne_str with ⟨spec, rfl, hstr⟩ | hkind
        · have hnot : Slot.str limit ∉ spec.starSlots := fun hmem ↦
            nomatch Directive.kind_of_mem_starSlots hmem
          rw [Segment.slots, Directive.ofDirective_of_str hstr,
            List.append_cons_inj_of_notMem hnot List.not_mem_nil] at hslots
          exact ⟨[], spec, rest, rfl, hstr, hslots.1.symm, (Slot.str.inj hslots.2.1).symm⟩
        · rw [hslots] at hkind
          exact absurd rfl (hkind (.str limit) (by simp))

variable {format : Bytes} {slots : List Slot}

/-- Whatever a C argument list holds, each string that a planned format takes is read under a bound
that is the precision of its directive; in memory that holds a terminator or has as many bytes as
the precision says, the read stays before the bound and does not go past the first NUL.  Rendering
what was collected gives the same bytes and skipped conversions, or the same error, as rendering
what is collected without any bound. -/
theorem collect_strings_bounded
    (hslots : Slot.ofSegments (Segment.ofFormat format) = .ok slots) (list : VaList) :
    (∀ earlier limit more, slots = earlier ++ .str limit :: more →
      let bound := limit.bound? (Slot.collect earlier list).getLast?
      let pointer := (Slot.rest earlier list).nextWord.1.pointer
      (∃ args, Slot.collect slots list =
        Slot.collect earlier list ++ .str (CString.bounded? pointer bound) :: args) ∧
        ∃ before directive after,
          Segment.ofFormat format = before ++ .directive directive :: after ∧
            directive.conversion = .s ∧
            earlier = before.flatMap Segment.slots ++ directive.starSlots ∧
            bound = directive.precisionIn (Slot.rest (before.flatMap Segment.slots) list) ∧
            ∀ memory, pointer = some memory →
              CString.IsReadable memory
                (directive.precisionIn (Slot.rest (before.flatMap Segment.slots) list)) →
              CString.StaysWithin memory bound) ∧
      renderFormat format (Slot.collect slots list) =
        renderFormat format (Slot.collect (slots.map Slot.unbounded) list) := by
  obtain ⟨hshort, rfl⟩ := of_ofSegments_eq_ok hslots
  refine ⟨?_, renderFormat_eq_of_same (render_collectAfter_same hshort none none list 0)⟩
  intro earlier limit more hmore bound pointer
  obtain ⟨before, directive, after, hformat, hstr, hearlier, hlimit⟩ :=
    exists_directive_of_str hmore
  have hbound : bound =
      directive.precisionIn (Slot.rest (before.flatMap Segment.slots) list) := by
    have hlast := bound?_getLast?
      (before.flatMap Segment.slots ++ Slot.ofExtent directive.width) directive.precision none list
    rw [List.append_assoc, Slot.rest_append, Option.or_none] at hlast
    simp only [bound, hlimit, hearlier]
    exact hlast
  have hcollect := Slot.collectAfter_append none earlier (.str limit :: more) list
  rw [Option.or_none, ← hmore] at hcollect
  refine ⟨⟨_, hcollect⟩, before, directive, after, hformat, hstr, hearlier, hbound, ?_⟩
  intro memory _ hreadable
  rw [hbound]
  exact CString.staysWithin_of_isReadable hreadable

/-- A name without terminator, under a `*` precision with garbage above its low 32 bits. -/
theorem collect_strings_bounded_name :
    let format := Bytes.ofAscii ['%', '.', '*', 's', '|']
    let name := Bytes.ofAscii ['T', 'E', 'X', 'T', 'U', 'R', 'E', '1']
    let list : VaList := ⟨[.number 0xFFFFFFFF00000005, .address name], []⟩
    Slot.ofSegments (Segment.ofFormat format) = .ok [.int, .str .previousArg] ∧
      0 ∉ name ∧ CString.StaysWithin name (some 5) ∧
      renderFormat format (Slot.collect [.int, .str .previousArg] list) =
        .ok (Bytes.ofAscii ['T', 'E', 'X', 'T', 'U', '|'], []) := by
  intro format name list
  have hslots : Slot.ofSegments (Segment.ofFormat format) = .ok [.int, .str .previousArg] := by
    decide +kernel
  obtain ⟨hstrings, hrender⟩ := collect_strings_bounded hslots list
  obtain ⟨-, before, directive, after, -, -, -, hbound, hstays⟩ :=
    hstrings [.int] .previousArg [] rfl
  have hfive : StrLimit.previousArg.bound? (Slot.collect [.int] list).getLast? = some 5 := by
    decide +kernel
  rw [hfive] at hbound hstays
  refine ⟨hslots, by decide, hstays name rfl ?_, ?_⟩
  · exact hbound ▸ .inr ⟨5, rfl, by decide⟩
  · rw [hrender]
    decide +kernel

end StubLibc.Format
