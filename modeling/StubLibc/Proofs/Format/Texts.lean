import StubLibc.Proofs.CString.Bounded
import StubLibc.Proofs.Format.Extents
import StubLibc.Proofs.Format.Outcomes
import StubLibc.Proofs.Format.Skipped
import StubLibc.Proofs.Numeral.Digits

/-!
# Text by the standard

The conversions `c`, `s` and `p` show a body: the low byte of an integer, a string up to the
precision, an address in hexadecimal.  The body is filled with spaces up to the width, on the right
under the flag `-` or a negative width and on the left otherwise.  Nothing else that a directive
says shows in its text.  A conversion that is not printed takes the same arguments as one that is,
and contributes its letter alone.
-/

namespace StubLibc.Format

def Conversion.isText : Conversion → Bool
  | c | s | p => true
  | _ => false

/-- Two directives, with the precisions that they ask for, differ in nothing that a text shows. -/
structure Directive.SameText (directive other : Directive)
    (precision otherPrecision : Option Nat) : Prop where
  conversion : other.conversion = directive.conversion
  width : other.width = directive.width
  leftJustify : other.flags.leftJustify = directive.flags.leftJustify
  precision : directive.conversion = .s → otherPrecision = precision

namespace Standard

/-- What a conversion shows of its argument under a precision, before it is filled up. -/
inductive Body (precision : Option Nat) : Conversion → Arg → Bytes → Prop
  /-- The low byte of an integer. -/
  | char {arg : Arg} {word : UInt64} (h : arg.asUint? = some word) :
    Body precision .c arg [UInt8.ofNat (word.toNat % 256)]
  /-- A string up to the precision.  NULL has a name. -/
  | str (text : Option Bytes) :
    Body precision .s (.str text)
      (CString.cut precision (text.getD (Bytes.ofAscii ['(', 'n', 'u', 'l', 'l', ')'])))
  /-- An address, marked as hexadecimal. -/
  | ptr (address : UInt64) :
    Body precision .p (.ptr address)
      (Bytes.ofAscii ['0', 'x'] ++ Numeral.shortest .hexLower address.toNat)

/-- The text stands left in its field: by its flag, or by a negative width. -/
def standsLeft (flags : Flags) (width : Option Int) : Bool :=
  flags.leftJustify || decide (width.getD 0 < 0)

/-- A body filled with spaces up to the width. -/
def field (left : Bool) (width : Nat) (body : Bytes) : Bytes :=
  if left then body.rightpad width Layout.space else body.leftpad width Layout.space

variable {precision : Option Nat} {conversion : Conversion} {arg : Arg} {body : Bytes}

theorem leftJustify_flags (written : Flags) (width : Option Int) :
    (flags written width).leftJustify = standsLeft written width := by
  unfold flags standsLeft
  split
  · next hnegative => simp [hnegative]
  · next hnegative => simp [hnegative]

theorem length_field (left : Bool) (width : Nat) (body : Bytes) :
    (field left width body).length = max width body.length := by
  unfold field
  split
  · rw [List.length_rightpad]
  · rw [List.length_leftpad]

/-- Every argument of the right class has a body. -/
theorem exists_body (htext : conversion.isText = true)
    (hfits : conversion.argKind.fits arg.kind = true) (precision : Option Nat) :
    ∃ body, Body precision conversion arg body := by
  cases conversion <;> cases htext
  case s =>
    rw [Conversion.argKind, ← Arg.isSome_asStr?] at hfits
    cases arg <;> cases hfits
    exact ⟨_, .str _⟩
  case c =>
    rw [Conversion.argKind, ← Arg.isSome_asInt?, Arg.asInt?_eq, Option.isSome_map] at hfits
    obtain ⟨word, hword⟩ := Option.isSome_iff_exists.mp hfits
    exact ⟨_, .char hword⟩
  case p =>
    rw [Conversion.argKind, ← Arg.isSome_asPtr?] at hfits
    cases arg <;> cases hfits
    exact ⟨_, .ptr _⟩

/-- Only a string is cut. -/
theorem Body.of_eq {other : Option Nat} (h : Body precision conversion arg body)
    (hprecision : conversion = .s → other = precision) : Body other conversion arg body := by
  cases h with
  | char hword => exact .char hword
  | str text =>
    rw [hprecision rfl]
    exact .str text
  | ptr address => exact .ptr address

end Standard

theorem Layout.text_eq_field (layout : Layout) (body : Bytes) :
    layout.text body = Standard.field layout.flags.leftJustify layout.width body := rfl

namespace Directive

variable {directive : Directive} {layout : Layout} {arg : Arg} {body : Bytes}

theorem strField_apply (layout : Layout) (text : Option Bytes) (position : Nat)
    (rest : List Arg) :
    strField layout ⟨position, .str text :: rest⟩ =
      (.ok (.text (CString.cut layout.precision (text.getD nullText))),
        ⟨position + 1, rest⟩) := by
  rw [strField, Fetch.run_bind]
  cases layout.precision <;> rfl

theorem charField_apply {word : UInt64} (hword : arg.asUint? = some word) (position : Nat)
    (rest : List Arg) :
    charField ⟨position, arg :: rest⟩ =
      (.ok (.text [UInt8.ofNat (word.toNat % 256)]), ⟨position + 1, rest⟩) := by
  have hbyte : word.toInt64.toUInt64.toUInt8 = UInt8.ofNat (word.toNat % 256) := by
    rw [UInt64.toUInt64_toInt64]
    apply UInt8.toNat_inj.mp
    simp
  rw [charField, Fetch.run_bind, Fetch.arg, Cursor.nextInt_cons hword]
  dsimp only
  rw [hbyte]
  rfl

theorem ptrField_apply (address : UInt64) (position : Nat) (rest : List Arg) :
    ptrField ⟨position, .ptr address :: rest⟩ =
      (.ok (.text (Bytes.ofAscii ['0', 'x'] ++ Numeral.shortest .hexLower address.toNat)),
        ⟨position + 1, rest⟩) := by
  rw [ptrField, Fetch.run_bind, ← Numeral.ofAscii_digits]
  rfl

/-- A text directive that has its layout fetches one argument, and shows the body of it. -/
theorem renderOwn_of_body
    (h : Standard.Body layout.precision directive.conversion arg body) (position : Nat)
    (rest : List Arg) :
    directive.renderOwn layout ⟨position, arg :: rest⟩ =
      (.ok (.shown (Standard.field layout.flags.leftJustify layout.width body)),
        ⟨position + 1, rest⟩) := by
  rw [← Layout.text_eq_field]
  generalize hconversion : directive.conversion = conversion at h
  cases h with
  | char hword =>
    exact renderOwn_of_field? (by rw [field?, hconversion]) (charField_apply hword position rest)
  | str text =>
    exact renderOwn_of_field? (by rw [field?, hconversion])
      (strField_apply layout text position rest)
  | ptr address =>
    exact renderOwn_of_field? (by rw [field?, hconversion]) (ptrField_apply address position rest)

theorem renderOwn_eq_skip (hunprinted : directive.conversion.isPrinted = false)
    (layout : Layout) : directive.renderOwn layout = directive.skip := by
  rw [← directive.isSome_field? layout, Option.isSome_eq_false_iff, Option.isNone_iff_eq_none]
    at hunprinted
  rw [renderOwn, hunprinted]

/-- A directive that is read over fetches one argument behind its layout, and leaves its letter. -/
theorem renderOwn_of_unprinted (hunprinted : directive.conversion.isPrinted = false)
    (hshort : directive.isLongDouble = false)
    (hfits : directive.conversion.argKind.fits arg.kind = true) (layout : Layout)
    (position : Nat) (rest : List Arg) :
    directive.renderOwn layout ⟨position, arg :: rest⟩ =
      (.ok (.skipped directive.conversion), ⟨position + 1, rest⟩) := by
  have hdrain : Cursor.drain [directive.conversion.argKind] ⟨position, arg :: rest⟩ =
      (none, ⟨position + 1, rest⟩) := by
    simp [Cursor.drain, hfits]
  obtain ⟨piece, hpiece⟩ :=
    (follows_renderOwn hshort layout).exists_eq_ok (directive.keepsFields_renderOwn layout) hdrain
  have hskips : piece.skips = [directive.conversion] := by
    rw [renderOwn_eq_skip hunprinted] at hpiece
    exact directive.yields_skip _ piece _ hpiece
  cases piece with
  | shown bytes => cases hskips
  | skipped conversion =>
    obtain rfl : conversion = directive.conversion := List.singleton_inj.mp hskips
    exact hpiece

variable {widthArgs precisionArgs : List Arg} {width precision : Option Int}

/-- A directive whose fields are at most the largest `int` goes on behind its `*` arguments. -/
theorem render_of_takes (hwidth : directive.width.Takes widthArgs width)
    (hprecision : directive.precision.Takes precisionArgs precision)
    (hwidthMax : Standard.width width ≤ maxField)
    (hprecisionMax : ∀ value ∈ Standard.precision precision, value ≤ maxField) (position : Nat)
    (rest : List Arg) :
    directive.render ⟨position, widthArgs ++ (precisionArgs ++ rest)⟩ =
      directive.renderOwn ⟨Standard.flags directive.flags width, Standard.width width,
          Standard.precision precision⟩
        ⟨position + widthArgs.length + precisionArgs.length, rest⟩ := by
  rw [render, Fetch.run_bind,
    Layout.resolve_of_takes hwidth hprecision hwidthMax hprecisionMax position rest]

/-- A text directive shows the body of its argument in a field. -/
theorem render_of_body (directive : Directive) (hwidth : directive.width.Takes widthArgs width)
    (hprecision : directive.precision.Takes precisionArgs precision)
    (hwidthMax : Standard.width width ≤ maxField)
    (hprecisionMax : ∀ value ∈ Standard.precision precision, value ≤ maxField)
    (hbody : Standard.Body (Standard.precision precision) directive.conversion arg body)
    (position : Nat) (rest : List Arg) :
    directive.render ⟨position, widthArgs ++ (precisionArgs ++ arg :: rest)⟩ =
      (.ok (.shown (Standard.field (Standard.standsLeft directive.flags width)
          (Standard.width width) body)),
        ⟨position + widthArgs.length + precisionArgs.length + 1, rest⟩) := by
  rw [render_of_takes hwidth hprecision hwidthMax hprecisionMax, renderOwn_of_body hbody,
    Standard.leftJustify_flags]

end Directive

theorem render_cons_of_render {directive : Directive} {cursor after : Cursor} {piece : Piece}
    (h : directive.render cursor = (.ok piece, after)) (segments : List Segment) :
    render (.directive directive :: segments) cursor = (render segments after).prepend piece := by
  rw [render, Segment.render, h]

variable {directive : Directive} {widthArgs precisionArgs : List Arg}
  {width precision : Option Int} {arg : Arg}

/-- For a directive whose fields are at most the largest `int` and whose argument has its class: a
text conversion appends the body of the argument, filled with spaces up to the width, and no flag
but `-` shows in it, nor the length, nor for a character or an address the precision.  A conversion
that is not printed and no long double appends nothing; its letter comes before those that are read
over behind it.  In a whole format these are the letters of the unprinted conversions, in order. -/
theorem render_text_or_skip (hwidth : directive.width.Takes widthArgs width)
    (hprecision : directive.precision.Takes precisionArgs precision)
    (hwidthMax : Standard.width width ≤ maxField)
    (hprecisionMax : ∀ value ∈ Standard.precision precision, value ≤ maxField)
    (hfits : directive.conversion.argKind.fits arg.kind = true) (position : Nat)
    (rest : List Arg) (segments : List Segment) :
    let rendering := render (.directive directive :: segments)
      ⟨position, widthArgs ++ (precisionArgs ++ arg :: rest)⟩
    let behind := render segments
      ⟨position + widthArgs.length + precisionArgs.length + 1, rest⟩
    (directive.conversion.isText = true →
      ∃ body, Standard.Body (Standard.precision precision) directive.conversion arg body ∧
        let text := Standard.field (Standard.standsLeft directive.flags width)
          (Standard.width width) body
        rendering = behind.prepend (.shown text) ∧
          text.length = max (Standard.width width) body.length ∧
          ∀ other otherArgs otherPrecision, other.precision.Takes otherArgs otherPrecision →
            (∀ value ∈ Standard.precision otherPrecision, value ≤ maxField) →
            directive.SameText other (Standard.precision precision)
              (Standard.precision otherPrecision) →
            (other.render ⟨position, widthArgs ++ (otherArgs ++ arg :: rest)⟩).1 =
              .ok (.shown text)) ∧
      (directive.conversion.isPrinted = false → directive.isLongDouble = false →
        rendering = behind.prepend (.skipped directive.conversion)) ∧
      ∀ skipped, rendering.result = .ok skipped →
        skipped = (.directive directive :: segments).filterMap Segment.unprinted? := by
  intro rendering behind
  refine ⟨fun htext ↦ ?_, fun hunprinted hshort ↦ ?_, fun skipped hskipped ↦ ?_⟩
  · obtain ⟨body, hbody⟩ := Standard.exists_body htext hfits (Standard.precision precision)
    have hrender := directive.render_of_body hwidth hprecision hwidthMax hprecisionMax hbody position
      rest
    refine ⟨body, hbody, render_cons_of_render hrender segments, Standard.length_field _ _ _, ?_⟩
    intro other otherArgs otherPrecision htakes hmax hsame
    have hleft : Standard.standsLeft other.flags width =
        Standard.standsLeft directive.flags width := by
      rw [Standard.standsLeft, hsame.leftJustify, Standard.standsLeft]
    have hotherWidth : other.width.Takes widthArgs width := hsame.width ▸ hwidth
    have hotherBody : Standard.Body (Standard.precision otherPrecision) other.conversion arg body :=
      hsame.conversion ▸ hbody.of_eq hsame.precision
    rw [other.render_of_body hotherWidth htakes hwidthMax hmax hotherBody, hleft]
  · apply render_cons_of_render
    rw [Directive.render_of_takes hwidth hprecision hwidthMax hprecisionMax,
      Directive.renderOwn_of_unprinted hunprinted hshort hfits]
  · exact eq_filterMap_unprinted?_of_render hskipped

/-- A string that is cut and stands left by its `*` arguments, and a number that is read over. -/
theorem render_text_or_skip_name :
    let name : Directive := ⟨{ forceSign := true, zeroPad := true }, .star, .star, .plain, .s⟩
    let real : Directive := ⟨{}, .fixed 8, .absent, .plain, .f⟩
    let shown := Bytes.ofAscii ['E', '1', 'M', '1']
    let args : List Arg := [.int (-6), .uint 3, .str (some shown), .double 0]
    let rendering := render [.directive name, .directive real] ⟨0, args⟩
    rendering.written = Bytes.ofAscii ['E', '1', 'M', ' ', ' ', ' '] ∧
      rendering.result = .ok [.f] ∧ rendering.cursor = ⟨4, []⟩ := by
  intro name real shown args rendering
  have hminus : signedResidue 32 (-6 : Int64).toUInt64 = -6 := by decide +kernel
  have hthree : signedResidue 32 3 = 3 := by decide +kernel
  have hwidth : name.width.Takes [.int (-6)] (some (-6)) := hminus ▸ .star rfl
  have hprecision : name.precision.Takes [.uint 3] (some 3) := hthree ▸ .star rfl
  have hstring : name.conversion.argKind.fits (Arg.str (some shown)).kind = true := rfl
  have hnumber : real.conversion.argKind.fits (Arg.double 0).kind = true := rfl
  obtain ⟨body, hbody, hname, -⟩ := (render_text_or_skip hwidth hprecision (by decide) (by decide)
    hstring 0 [.double 0] [.directive real]).1 rfl
  have hreal := (render_text_or_skip (.fixed 8) .absent (by decide) (by decide) hnumber 3 []
    []).2.1 rfl rfl
  have hrendering : rendering = ((render [] ⟨4, []⟩).prepend (.skipped .f)).prepend _ :=
    hname.trans (congrArg _ hreal)
  cases hbody
  rw [hrendering]
  exact ⟨by decide, rfl, rfl⟩

end StubLibc.Format
