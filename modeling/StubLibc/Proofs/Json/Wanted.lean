import StubLibc.Json.Value
import StubLibc.Proofs.Json.Passing

/-!
# What wanted values are read from

A reader of strings gives a value only for the spelling of a string, and a reader of wanted values
only for a value of the grammar.  Such a value is never a number, so where the reader stops is where
`Scan.skipValue` stops: a value may be read or passed over, and the text that follows is the same.
-/

namespace StubLibc.Json.Scan

variable {α β : Type}

/-! ## Strings -/

theorem eq_cons_of_run_nextInString {text rest : List Char} {c : Char}
    (h : nextInString.run text = .ok (c, rest)) : text = c :: rest := by
  cases text with
  | nil => cases h
  | cons d more =>
    cases h
    rfl

theorem utf8Size_eq_one_of_hexValue? {c : Char} {value : Nat} (h : hexValue? c = some value) :
    c.utf8Size = 1 := by
  have hle : ∀ {last : Char}, last.toNat ≤ 0x7F → c ≤ last → c.utf8Size = 1 := by
    intro last hlast hc
    have hc : c.val.toNat ≤ last.val.toNat := hc
    rw [Char.utf8Size_eq_one_iff, UInt32.le_iff_toNat_le]
    exact Nat.le_trans hc hlast
  simp only [hexValue?, Bool.and_eq_true, decide_eq_true_eq] at h
  split at h
  · rename_i hc
    exact hle (by decide) hc.2
  split at h
  · rename_i hc
    exact hle (by decide) hc.2
  split at h
  · rename_i hc
    exact hle (by decide) hc.2
  · cases h

/-- Hexadecimal digits take one byte each. -/
theorem utf8Size_of_hexNumber? {digits : List Char} {code : Nat}
    (h : hexNumber? digits = some code) : utf8Size digits = digits.length := by
  have hfold : ∀ (digits : List Char) {value size : Nat},
      digits.foldlM (fun value c ↦ (hexValue? c).map (value * 16 + ·)) value = some code →
        digits.foldl (fun size c ↦ size + c.utf8Size) size = size + digits.length := by
    intro digits
    induction digits with
    | nil => exact fun _ ↦ rfl
    | cons c rest ih =>
      intro value size h
      rw [List.foldlM_cons] at h
      obtain ⟨next, hnext, hrest⟩ := Option.bind_eq_some_iff.mp h
      obtain ⟨digit, hdigit, -⟩ := Option.map_eq_some_iff.mp hnext
      rw [List.foldl_cons, ih hrest, utf8Size_eq_one_of_hexValue? hdigit, List.length_cons]
      omega
  have hsize : utf8Size digits = 0 + digits.length := hfold digits h
  rwa [Nat.zero_add] at hsize

theorem exists_of_run_hexEscape {text rest : List Char} {code : Nat}
    (h : hexEscape.run text = .ok (code, rest)) :
    ∃ digits, text = digits ++ rest ∧ digits.length = 4 ∧ hexNumber? digits = some code := by
  obtain ⟨digits, middle, hfour, hdigits⟩ := exists_of_run_bind h
  cases hfour
  split at hdigits
  · cases hdigits
  rename_i hsize
  split at hdigits
  · rename_i value hcode
    cases hdigits
    have hlength : (text.take 4).length = 4 := by
      rw [utf8Size_of_hexNumber? hcode] at hsize
      have hle := List.length_take_le 4 text
      omega
    exact ⟨text.take 4, (List.take_append_drop 4 text).symm, hlength, hcode⟩
  · cases hdigits

theorem exists_of_run_unicodeEscape {text rest : List Char} {c : Char}
    (h : unicodeEscape.run text = .ok (c, rest)) :
    ∃ taken, text = taken ++ rest ∧ SpellsChar ('\\' :: 'u' :: taken) c := by
  obtain ⟨code, afterFirst, hfirst, hpair⟩ := exists_of_run_bind h
  obtain ⟨first, rfl, hlength, hcode⟩ := exists_of_run_hexEscape hfirst
  split at hpair
  · cases hpair
  rename_i hnotLow
  split at hpair
  · rename_i hhigh
    obtain ⟨backslash, afterBackslash, hbackslash, hletter⟩ := exists_of_run_bind hpair
    obtain rfl := eq_cons_of_run_nextInString hbackslash
    split at hletter
    · cases hletter
    rename_i hbackslash
    obtain rfl := Decidable.not_not.mp hbackslash
    obtain ⟨letter, afterLetter, hletter, hsecond⟩ := exists_of_run_bind hletter
    obtain rfl := eq_cons_of_run_nextInString hletter
    split at hsecond
    · cases hsecond
    rename_i hletter
    obtain rfl := Decidable.not_not.mp hletter
    obtain ⟨low, afterSecond, hsecond, hlow⟩ := exists_of_run_bind hsecond
    obtain ⟨second, rfl, hsecondLength, hlowCode⟩ := exists_of_run_hexEscape hsecond
    split at hlow
    · rename_i hisLow
      simp only [run_pure, Except.ok.injEq, Prod.mk.injEq] at hlow
      obtain ⟨rfl, rfl⟩ := hlow
      exact ⟨first ++ '\\' :: 'u' :: second, by simp,
        .pair hlength hsecondLength hcode hlowCode hhigh hisLow⟩
    · cases hlow
  · rename_i hnotHigh
    cases hpair
    rw [Bool.not_eq_true] at hnotLow hnotHigh
    exact ⟨first, rfl, .code hlength hcode hnotLow hnotHigh⟩

theorem exists_of_run_escaped {text rest : List Char} {c : Char}
    (h : escaped.run text = .ok (c, rest)) :
    ∃ taken, text = taken ++ rest ∧ SpellsChar ('\\' :: taken) c := by
  obtain ⟨letter, middle, hletter, hvalue⟩ := exists_of_run_bind h
  obtain rfl := eq_cons_of_run_nextInString hletter
  split at hvalue
  · rename_i hescape
    cases hvalue
    exact ⟨[letter], rfl, .letter hescape⟩
  split at hvalue
  · rename_i hu
    obtain rfl := hu
    obtain ⟨taken, rfl, htaken⟩ := exists_of_run_unicodeEscape hvalue
    exact ⟨'u' :: taken, rfl, htaken⟩
  · cases hvalue

/-- What a step of the reader of strings takes: a quote at the end, or one spelled character. -/
theorem exists_of_run_stringStep {taken text rest : List Char} {next : List Char ⊕ List Char}
    (h : (stringStep taken).run text = .ok (next, rest)) :
    (next = .inr taken.reverse ∧ text = '"' :: rest) ∨
      ∃ c spelling, next = .inl (c :: taken) ∧ text = spelling ++ rest ∧ SpellsChar spelling c := by
  obtain ⟨c, middle, hc, hstep⟩ := exists_of_run_bind h
  obtain rfl := eq_cons_of_run_nextInString hc
  split at hstep
  · rename_i hquote
    cases hstep
    exact .inl ⟨rfl, by rw [hquote]⟩
  rename_i hquote
  split at hstep
  · rename_i hbackslash
    obtain ⟨value, middle, hvalue, hdone⟩ := exists_of_run_bind hstep
    obtain ⟨spelling, rfl, hspelling⟩ := exists_of_run_escaped hvalue
    cases hdone
    obtain rfl := hbackslash
    exact .inr ⟨value, '\\' :: spelling, rfl, rfl, hspelling⟩
  rename_i hbackslash
  split at hstep
  · cases hstep
  rename_i hcontrol
  cases hstep
  exact .inr ⟨c, [c], rfl, rfl, .raw hquote hbackslash (by omega)⟩

/-- A string is read from a spelling of it and a quote. -/
theorem exists_of_run_string {text rest characters : List Char}
    (h : string.run text = .ok (characters, rest)) :
    ∃ spelling, text = spelling ++ '"' :: rest ∧ Spells spelling characters := by
  have hloop : ∃ spelling more, text = spelling ++ '"' :: rest ∧ Spells spelling more ∧
      characters = ([] : List Char).reverse ++ more := by
    refine loop_induction (motive := fun taken text characters rest ↦ ∃ spelling more,
      text = spelling ++ '"' :: rest ∧ Spells spelling more ∧ characters = taken.reverse ++ more)
      ?_ ?_ h
    · intro taken text rest characters hstep
      obtain ⟨hnext, rfl⟩ | ⟨c, spelling, hnext, -⟩ := exists_of_run_stringStep hstep
      · cases hnext
        exact ⟨[], [], rfl, .nil, (List.append_nil _).symm⟩
      · cases hnext
    · rintro taken next text middle rest characters hstep ⟨spelling, more, rfl, hspells, rfl⟩
      obtain ⟨hnext, -⟩ | ⟨c, first, hnext, rfl, hfirst⟩ := exists_of_run_stringStep hstep
      · cases hnext
      · cases hnext
        refine ⟨first ++ spelling, c :: more, ?_, .cons hfirst hspells, ?_⟩
        · rw [List.append_assoc]
        · rw [List.reverse_cons, List.append_assoc, List.singleton_append]
  obtain ⟨spelling, more, htext, hspells, rfl⟩ := hloop
  exact ⟨spelling, htext, hspells⟩

/-- Where a key ends does not depend on what follows it. -/
theorem spells_of_run_string {body more rest characters : List Char} (hbody : IsBody body)
    (h : string.run (body ++ '"' :: more) = .ok (characters, rest)) :
    rest = more ∧ Spells body characters := by
  obtain ⟨spelling, htext, hspells⟩ := exists_of_run_string h
  have hbodyRun := reads_skipString hbody more
  have hspellingRun := reads_skipString hspells.isBody rest
  rw [List.append_assoc, List.singleton_append] at hbodyRun hspellingRun
  rw [← htext, hbodyRun] at hspellingRun
  cases hspellingRun
  exact ⟨rfl, List.append_cancel_right htext ▸ hspells⟩

/-! ## Values -/

/-- The text starts with white space and a value that is no number, and the rest follows. -/
def StartsValue (text rest : List Char) : Prop :=
  ∃ blank taken, IsBlank blank ∧ IsValue taken ∧ ¬ IsNumber taken ∧ text = blank ++ (taken ++ rest)

/-- White space before a value belongs to what is taken. -/
theorem StartsValue.blank {blank text rest : List Char} (hblank : IsBlank blank)
    (h : StartsValue text rest) : StartsValue (blank ++ text) rest := by
  obtain ⟨before, taken, hbefore, hvalue, hnumber, rfl⟩ := h
  refine ⟨blank ++ before, taken, ?_, hvalue, hnumber, (List.append_assoc ..).symm⟩
  exact List.forall_mem_append.mpr ⟨hblank, hbefore⟩

/-- The scanner gives a value only for a value of the grammar that is no number. -/
def TakesValue (scan : Scan α) : Prop :=
  ∀ ⦃text rest : List Char⦄ ⦃value : α⦄, scan.run text = .ok (value, rest) → StartsValue text rest

/-- Such a value might as well have been passed over. -/
theorem TakesValue.run_skipValue {scan : Scan α} (hscan : scan.TakesValue) {text rest : List Char}
    {value : α} (h : scan.run text = .ok (value, rest)) : skipValue.run text = .ok ((), rest) := by
  obtain ⟨blank, taken, hblank, hvalue, hnumber, rfl⟩ := hscan h
  exact Scan.run_skipValue hblank hvalue fun h ↦ absurd h hnumber

theorem TakesValue.map {scan : Scan α} (hscan : scan.TakesValue) (f : α → β) :
    (f <$> scan).TakesValue := by
  intro text rest value h
  obtain ⟨found, middle, hfound, hpure⟩ := exists_of_run_bind h
  cases hpure
  exact hscan hfound

theorem not_isNumber_of_head {c : Char} (hdigit : isDigit c = false) (hminus : c ≠ '-')
    (rest : List Char) : ¬ IsNumber (c :: rest) := by
  intro h
  obtain ⟨d, more, heq, hd⟩ := h.exists_cons
  cases heq
  rcases hd with hd | hd
  · exact absurd (hdigit.symm.trans hd) (by decide)
  · exact hminus hd

theorem eq_append_of_run_word {letters text rest : List Char}
    (h : (word letters).run text = .ok ((), rest)) : text = letters ++ rest := by
  induction letters generalizing text with
  | nil =>
    cases h
    rfl
  | cons letter letters ih =>
    obtain ⟨found, middle, hnext, hmore⟩ := exists_of_run_bind h
    cases text with
    | nil =>
      cases hnext
      cases hmore
    | cons c text =>
      cases hnext
      have hmore : (if c = letter then word letters else fail .expectedWord).run text =
        .ok ((), rest) := hmore
      split at hmore
      · rename_i hc
        rw [hc, ih hmore, List.cons_append]
      · cases hmore

/-- The scanner gives no value, whatever the text. -/
def Refuses (scan : Scan α) : Prop :=
  ∀ (text rest : List Char) (value : α), scan.run text ≠ .ok (value, rest)

theorem refuses_fail (fault : Fault) : (fail fault : Scan α).Refuses := by
  intro text rest value h
  cases h

theorem refuses_bind {first : Scan α} {second : α → Scan β} (h : ∀ value, (second value).Refuses) :
    (first >>= second).Refuses := by
  intro text rest result hrun
  obtain ⟨value, middle, -, hsecond⟩ := exists_of_run_bind hrun
  exact h value middle rest result hsecond

theorem refuses_refuseNumber (expected : String) (number : Spelling) :
    (mismatch.refuseNumber expected number : Scan α).Refuses := by
  unfold mismatch.refuseNumber
  split <;> exact refuses_fail _

/-- A value of another kind than the wanted one is never accepted. -/
theorem refuses_mismatch (expected : String) : (mismatch expected : Scan α).Refuses := by
  refine refuses_bind fun found ↦ ?_
  split
  case h_1 | h_2 | h_3 | h_4 => exact refuses_bind fun _ ↦ refuses_bind fun _ ↦ refuses_fail _
  case h_5 | h_6 => exact refuses_fail _
  case h_7 => exact refuses_bind fun _ ↦ refuses_bind fun _ ↦ refuses_refuseNumber _ _
  case h_8 =>
    split
    · exact refuses_bind fun _ ↦ refuses_refuseNumber _ _
    · exact refuses_fail _
  case h_9 => exact refuses_fail _

/-- A list or an object with one part. -/
theorem isValue_singleton {frame : Frame} (part : Part frame) (h : IsValue part.value) :
    IsValue (frame.opening :: (part.text ++ [frame.closing])) := by
  have hfilled := IsValue.filled (List.cons_ne_nil part []) (List.forall_mem_singleton.mpr h)
  rwa [List.map_singleton, Document.commaSeparated_cons, List.flatMap_nil, List.append_nil]
    at hfilled

/-- A string after its opening quote. -/
theorem startsValue_of_string {text start rest characters : List Char}
    (htoken : token.run text = .ok (some '"', start))
    (hstring : string.run start.tail = .ok (characters, rest)) : StartsValue text rest := by
  obtain ⟨blank, more, hblank, rfl, rfl⟩ := exists_of_run_token_some htoken
  obtain ⟨spelling, hmore, hspells⟩ := exists_of_run_string hstring
  have hnumber : ¬ IsNumber (quoted spelling) := not_isNumber_of_head (by decide) (by decide) _
  refine ⟨blank, quoted spelling, hblank, .string hspells.isBody, hnumber, ?_⟩
  rw [show more = spelling ++ '"' :: rest from hmore]
  simp [quoted]

/-- The value null after its first letter. -/
theorem exists_of_run_null_tail {text start rest : List Char}
    (htoken : token.run text = .ok (some 'n', start))
    (hword : (word ['u', 'l', 'l']).run start.tail = .ok ((), rest)) :
    ∃ blank, IsBlank blank ∧ text = blank ++ 'n' :: 'u' :: 'l' :: 'l' :: rest := by
  obtain ⟨blank, more, hblank, rfl, rfl⟩ := exists_of_run_token_some htoken
  refine ⟨blank, hblank, ?_⟩
  rw [show more = ['u', 'l', 'l'] ++ rest from eq_append_of_run_word hword]
  rfl

theorem isValue_null : IsValue ['n', 'u', 'l', 'l'] := .word (by decide)

theorem takesValue_text : text.TakesValue := by
  intro text rest value h
  obtain ⟨found, start, htoken, hvalue⟩ := exists_of_run_bind h
  split at hvalue
  · cases hvalue
  · obtain ⟨quote, middle, hquote, hmap⟩ := exists_of_run_bind hvalue
    cases hquote
    obtain ⟨characters, middle, hstring, hpure⟩ := exists_of_run_bind hmap
    cases hpure
    exact startsValue_of_string htoken hstring
  · exact absurd hvalue (refuses_mismatch _ _ _ _)

theorem takesValue_orNull {scan : Scan α} (hscan : scan.TakesValue) :
    (orNull scan).TakesValue := by
  intro text rest value h
  obtain ⟨found, start, htoken, hvalue⟩ := exists_of_run_bind h
  split at hvalue
  · rename_i hn
    obtain rfl := hn
    obtain ⟨letter, middle, hletter, hword⟩ := exists_of_run_bind hvalue
    cases hletter
    obtain ⟨⟨⟩, middle, hword, hpure⟩ := exists_of_run_bind hword
    cases hpure
    obtain ⟨blank, hblank, rfl⟩ := exists_of_run_null_tail htoken hword
    have hnumber := not_isNumber_of_head (c := 'n') (by decide) (by decide) ['u', 'l', 'l']
    exact ⟨blank, _, hblank, isValue_null, hnumber, rfl⟩
  · obtain ⟨blank, hblank, rfl, -⟩ := exists_of_run_token htoken
    exact (hscan.map some hvalue).blank hblank

/-! ## Variants -/

theorem exists_of_run_colon {text rest : List Char} (h : colon.run text = .ok ((), rest)) :
    ∃ blank, IsBlank blank ∧ text = blank ++ ':' :: rest := by
  obtain ⟨found, start, htoken, hcolon⟩ := exists_of_run_bind h
  split at hcolon
  · cases hcolon
  · obtain ⟨blank, more, hblank, rfl, rfl⟩ := exists_of_run_token_some htoken
    cases hcolon
    exact ⟨blank, hblank, rfl⟩
  · cases hcolon

theorem exists_of_run_null {text rest : List Char} (h : null.run text = .ok ((), rest)) :
    ∃ blank, IsBlank blank ∧ text = blank ++ 'n' :: 'u' :: 'l' :: 'l' :: rest := by
  obtain ⟨found, start, htoken, hnull⟩ := exists_of_run_bind h
  split at hnull
  · cases hnull
  · obtain ⟨letter, middle, hletter, hword⟩ := exists_of_run_bind hnull
    cases hletter
    exact exists_of_run_null_tail htoken hword
  · exact absurd hnull (refuses_mismatch _ _ _ _)

theorem exists_of_run_onlyKey {text rest : List Char} (h : onlyKey.run text = .ok ((), rest)) :
    ∃ blank, IsBlank blank ∧ text = blank ++ '"' :: rest := by
  obtain ⟨found, start, htoken, hquote⟩ := exists_of_run_bind h
  split at hquote
  case h_2 =>
    obtain ⟨blank, more, hblank, rfl, rfl⟩ := exists_of_run_token_some htoken
    cases hquote
    exact ⟨blank, hblank, rfl⟩
  all_goals cases hquote

/-- The only member of an object, with the value null. -/
theorem exists_part_of_run
    {text afterQuote afterKey afterColon afterNull last characters : List Char}
    (hquote : onlyKey.run text = .ok ((), afterQuote))
    (hstring : string.run afterQuote = .ok (characters, afterKey))
    (hcolon : colon.run afterKey = .ok ((), afterColon))
    (hnull : null.run afterColon = .ok ((), afterNull))
    (htoken : token.run afterNull = .ok (some '\x7d', last)) :
    ∃ part : Part .object, IsValue part.value ∧ text = part.text ++ '\x7d' :: last.tail := by
  obtain ⟨beforeKey, hbeforeKey, rfl⟩ := exists_of_run_onlyKey hquote
  obtain ⟨spelling, rfl, hspells⟩ := exists_of_run_string hstring
  obtain ⟨beforeColon, hbeforeColon, rfl⟩ := exists_of_run_colon hcolon
  obtain ⟨beforeNull, hbeforeNull, rfl⟩ := exists_of_run_null hnull
  obtain ⟨beforeEnd, tail, hbeforeEnd, rfl, rfl⟩ := exists_of_run_token_some htoken
  refine ⟨⟨.member ⟨beforeKey, hbeforeKey⟩ spelling hspells.isBody ⟨beforeColon, hbeforeColon⟩
    ⟨beforeNull, hbeforeNull⟩, _, ⟨beforeEnd, hbeforeEnd⟩⟩, isValue_null, ?_⟩
  simp [Part.text, Opening.text, quoted]

theorem rest_eq_of_run_named {all : List α} {name : α → String} {found : String}
    {text rest : List Char} {value : α} (h : (named all name found).run text = .ok (value, rest)) :
    rest = text := by
  unfold named at h
  split at h <;> cases h
  rfl

/-- A variant is written as its name, or as the name with the value null in an object. -/
theorem takesValue_variant (all : List α) (name : α → String) :
    (variant all name).TakesValue := by
  intro text rest value h
  obtain ⟨found, start, htoken, hvalue⟩ := exists_of_run_bind h
  split at hvalue
  · cases hvalue
  · obtain ⟨quote, middle, hquote, hstring⟩ := exists_of_run_bind hvalue
    cases hquote
    obtain ⟨characters, middle, hstring, hnamed⟩ := exists_of_run_bind hstring
    obtain rfl := rest_eq_of_run_named hnamed
    exact startsValue_of_string htoken hstring
  · obtain ⟨bracket, inner, hbracket, hkey⟩ := exists_of_run_bind hvalue
    obtain ⟨⟨⟩, afterQuote, hquote, hstring⟩ := exists_of_run_bind hkey
    obtain ⟨characters, afterKey, hstring, hnamed⟩ := exists_of_run_bind hstring
    obtain ⟨found, afterName, hnamed, hcolon⟩ := exists_of_run_bind hnamed
    obtain rfl := rest_eq_of_run_named hnamed
    obtain ⟨⟨⟩, afterColon, hcolon, hnull⟩ := exists_of_run_bind hcolon
    obtain ⟨⟨⟩, afterNull, hnull, hend⟩ := exists_of_run_bind hnull
    obtain ⟨closing, last, hclosing, hdone⟩ := exists_of_run_bind hend
    obtain ⟨blank, more, hblank, rfl, rfl⟩ := exists_of_run_token_some htoken
    cases hbracket
    split at hdone
    · cases hdone
    · obtain ⟨part, hpart, hinner⟩ := exists_part_of_run hquote hstring hcolon hnull hclosing
      cases hdone
      have hobject := isValue_singleton part hpart
      have hnumber := not_isNumber_of_head (c := Frame.object.opening) (by decide) (by decide)
        (part.text ++ [Frame.object.closing])
      refine ⟨blank, _, hblank, hobject, hnumber, ?_⟩
      rw [show more = part.text ++ '\x7d' :: last.tail from hinner]
      simp [Frame.opening, Frame.closing]
    · cases hdone
  · cases hvalue

end StubLibc.Json.Scan
