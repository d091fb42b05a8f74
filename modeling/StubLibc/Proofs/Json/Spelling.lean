import StubLibc.Json.Document
import StubLibc.Json.Text
import StubLibc.Proofs.Json.Reads

/-!
# Spellings of strings

A character has several spellings inside a JSON string: itself, a letter escape, a code in
hexadecimal, or a pair of codes.  The reader of strings takes every spelling of every character, and
the writer uses one of them, so reading inverts writing for all texts.
-/

namespace StubLibc.Json.Scan

/-- The spellings of one character inside a string. -/
inductive SpellsChar : List Char → Char → Prop
  | raw {c : Char} (hquote : c ≠ '"') (hbackslash : c ≠ '\\') (hcontrol : 0x20 ≤ c.toNat) :
    SpellsChar [c] c
  | letter {letter c : Char} (h : letterEscape? letter = some c) : SpellsChar ['\\', letter] c
  | code {digits : List Char} {code : Nat} (hlength : digits.length = 4)
    (hcode : hexNumber? digits = some code) (hlow : isLowSurrogate code = false)
    (hhigh : isHighSurrogate code = false) :
    SpellsChar ('\\' :: 'u' :: digits) (Char.ofNat code)
  | pair {first second : List Char} {high low : Nat} (hfirst : first.length = 4)
    (hsecond : second.length = 4) (hhighCode : hexNumber? first = some high)
    (hlowCode : hexNumber? second = some low) (hhigh : isHighSurrogate high = true)
    (hlow : isLowSurrogate low = true) :
    SpellsChar ('\\' :: 'u' :: (first ++ '\\' :: 'u' :: second))
      (Char.ofNat ((high - 0xD800) * 0x400 + (low - 0xDC00) + 0x10000))

/-- The spellings of the characters of a string, one after the other. -/
inductive Spells : List Char → List Char → Prop
  | nil : Spells [] []
  | cons {spelling more : List Char} {c : Char} {characters : List Char}
    (hc : SpellsChar spelling c) (hmore : Spells more characters) :
    Spells (spelling ++ more) (c :: characters)

/-! ## Reading -/

theorem reads_nextInString (c : Char) : nextInString.Reads [c] c :=
  fun _ ↦ rfl

theorem length_le_utf8Size (text : List Char) : text.length ≤ utf8Size text := by
  have hfold : ∀ size : Nat,
      size + text.length ≤ text.foldl (fun size c ↦ size + c.utf8Size) size := by
    induction text with
    | nil => exact fun _ ↦ Nat.le_refl _
    | cons c rest ih =>
      intro size
      have hpos := c.utf8Size_pos
      have h := ih (size + c.utf8Size)
      simp only [List.foldl_cons, List.length_cons]
      omega
  have h := hfold 0
  rwa [Nat.zero_add] at h

theorem reads_four {digits : List Char} (hlength : digits.length = 4) :
    four.Reads digits digits := by
  intro rest
  simp only [four]
  rw [← hlength, List.take_left, List.drop_left]

theorem reads_hexEscape {digits : List Char} {code : Nat} (hlength : digits.length = 4)
    (hcode : hexNumber? digits = some code) : hexEscape.Reads digits code := by
  apply (reads_four hlength).bind_nil
  have hsize := length_le_utf8Size digits
  rw [if_neg (by omega), hcode]
  exact reads_pure code

theorem reads_escaped_letter {letter c : Char} (h : letterEscape? letter = some c) :
    escaped.Reads [letter] c := by
  apply (reads_nextInString letter).bind_cons
  rw [h]
  exact reads_pure c

theorem reads_escaped_unicode {text : List Char} {c : Char} (h : unicodeEscape.Reads text c) :
    escaped.Reads ('u' :: text) c :=
  (reads_nextInString 'u').bind_cons h

theorem reads_unicodeEscape_code {digits : List Char} {code : Nat} (hlength : digits.length = 4)
    (hcode : hexNumber? digits = some code) (hlow : isLowSurrogate code = false)
    (hhigh : isHighSurrogate code = false) : unicodeEscape.Reads digits (Char.ofNat code) := by
  apply (reads_hexEscape hlength hcode).bind_nil
  rw [hlow, hhigh]
  exact reads_pure _

/-- No code opens a pair and closes one. -/
theorem isLowSurrogate_of_isHighSurrogate {code : Nat} (h : isHighSurrogate code = true) :
    isLowSurrogate code = false := by
  simp only [isHighSurrogate, Bool.and_eq_true, decide_eq_true_eq] at h
  simp only [isLowSurrogate, Bool.and_eq_false_iff, decide_eq_false_iff_not]
  omega

theorem reads_unicodeEscape_pair {first second : List Char} {high low : Nat}
    (hfirst : first.length = 4) (hsecond : second.length = 4)
    (hhighCode : hexNumber? first = some high) (hlowCode : hexNumber? second = some low)
    (hhigh : isHighSurrogate high = true) (hlow : isLowSurrogate low = true) :
    unicodeEscape.Reads (first ++ '\\' :: 'u' :: second)
      (Char.ofNat ((high - 0xD800) * 0x400 + (low - 0xDC00) + 0x10000)) := by
  apply (reads_hexEscape hfirst hhighCode).bind
  rw [isLowSurrogate_of_isHighSurrogate hhigh, hhigh]
  apply (reads_nextInString '\\').bind_cons
  apply (reads_nextInString 'u').bind_cons
  apply (reads_hexEscape hsecond hlowCode).bind_nil
  rw [hlow]
  exact reads_pure _

/-- One step of the reader takes one spelling. -/
theorem reads_stringStep {spelling : List Char} {c : Char} (h : SpellsChar spelling c)
    (taken : List Char) : (stringStep taken).Reads spelling (.inl (c :: taken)) := by
  have hescape : ∀ {text : List Char}, escaped.Reads text c →
      (stringStep taken).Reads ('\\' :: text) (.inl (c :: taken)) := by
    intro text htext
    apply (reads_nextInString '\\').bind_cons
    exact htext.bind_nil (reads_pure _)
  cases h with
  | raw hquote hbackslash hcontrol =>
    apply (reads_nextInString c).bind_cons
    rw [if_neg hquote, if_neg hbackslash, if_neg (by omega)]
    exact reads_pure _
  | letter h => exact hescape (reads_escaped_letter h)
  | code hlength hcode hlow hhigh =>
    exact hescape (reads_escaped_unicode (reads_unicodeEscape_code hlength hcode hlow hhigh))
  | pair hfirst hsecond hhighCode hlowCode hhigh hlow =>
    exact hescape (reads_escaped_unicode
      (reads_unicodeEscape_pair hfirst hsecond hhighCode hlowCode hhigh hlow))

theorem SpellsChar.ne_nil {spelling : List Char} {c : Char} (h : SpellsChar spelling c) :
    spelling ≠ [] := by
  cases h <;> exact List.cons_ne_nil _ _

/-- Reading a string in any spelling gives its characters. -/
theorem reads_string {spelling characters : List Char} (h : Spells spelling characters) :
    string.Reads (spelling ++ ['"']) characters := by
  have hloop : ∀ taken : List Char,
      (loop stringStep taken).Reads (spelling ++ ['"']) (taken.reverse ++ characters) := by
    induction h with
    | nil =>
      intro taken
      rw [List.append_nil]
      exact reads_loop_done ((reads_nextInString '"').bind_cons (reads_pure _))
    | @cons spelling more c characters hc hmore ih =>
      intro taken
      have hrest := ih (c :: taken)
      rw [List.reverse_cons, List.append_assoc, List.singleton_append] at hrest
      rw [List.append_assoc]
      exact reads_loop_more (reads_stringStep hc taken) hc.ne_nil hrest
  exact hloop []

/-! ## Writing -/

theorem hexValue?_hexDigit {value : Nat} (h : value < 16) :
    hexValue? (hexDigit value) = some value := by
  have hall : ∀ value < 16, hexValue? (hexDigit value) = some value := by decide
  exact hall value h

/-- The code written for a control character. -/
theorem hexNumber?_control {code : Nat} (h : code < 0x20) :
    hexNumber? ['0', '0', hexDigit (code / 16), hexDigit (code % 16)] = some code := by
  have hzero : hexValue? '0' = some 0 := by decide
  have hhigh := hexValue?_hexDigit (show code / 16 < 16 by omega)
  have hlow := hexValue?_hexDigit (show code % 16 < 16 by omega)
  simp only [hexNumber?, List.foldlM_cons, List.foldlM_nil, hzero, hhigh, hlow, Option.map_some,
    Option.bind_eq_bind, Option.bind_some, Option.pure_def, Option.some.injEq]
  omega

/-- The writer spells every character. -/
theorem spellsChar_escape (c : Char) : SpellsChar (escape c) c := by
  unfold escape
  split
  · exact .letter (by subst_vars; decide)
  split
  · exact .letter (by subst_vars; decide)
  split
  · exact .letter (by subst_vars; decide)
  split
  · exact .letter (by subst_vars; decide)
  split
  · exact .letter (by subst_vars; decide)
  split
  · rename_i h
    exact .letter (by rw [← Char.ofNat_toNat c, h]; decide)
  split
  · rename_i h
    exact .letter (by rw [← Char.ofNat_toNat c, h]; decide)
  split
  · rename_i h
    have hcode := SpellsChar.code rfl (hexNumber?_control h)
      (by simp only [isLowSurrogate, Bool.and_eq_false_iff, decide_eq_false_iff_not]; omega)
      (by simp only [isHighSurrogate, Bool.and_eq_false_iff, decide_eq_false_iff_not]; omega)
    rwa [Char.ofNat_toNat] at hcode
  · rename_i hquote hbackslash _ _ _ _ _ hcontrol
    exact .raw hquote hbackslash (by omega)

theorem spells_escape (characters : List Char) : Spells (characters.flatMap escape) characters := by
  induction characters with
  | nil => exact .nil
  | cons c rest ih => exact .cons (spellsChar_escape c) ih

end StubLibc.Json.Scan
