import StubLibc.Json.Skip
import StubLibc.Proofs.Json.Spelling

/-!
# The grammar of JSON values

What may stand where JSON has a value, said without a reader: the words, numbers of any size,
strings whose escapes need not pair up as surrogates, and lists and objects of values in any depth,
with white space wherever a token may have it.

Lists and objects are written alike.  Their parts stand between commas, and a part is a value behind
its opening, which for a member of an object is the key and the colon.
-/

namespace StubLibc.Json

open Scan

/-! ## Strings -/

/-- A character of a string as it is written, or one half of a surrogate pair. -/
inductive IsUnit : List Char → Prop
  | raw {c : Char} (hquote : c ≠ '"') (hbackslash : c ≠ '\\') (hcontrol : 0x20 ≤ c.toNat) :
    IsUnit [c]
  | letter {letter : Char} (h : (letterEscape? letter).isSome = true) : IsUnit ['\\', letter]
  | code {digits : List Char} (hlength : digits.length = 4)
    (hcode : (hexNumber? digits).isSome = true) : IsUnit ('\\' :: 'u' :: digits)

/-- What may stand between the quotes of a string. -/
inductive IsBody : List Char → Prop
  | nil : IsBody []
  | cons {unit more : List Char} (hunit : IsUnit unit) (hmore : IsBody more) : IsBody (unit ++ more)

theorem IsUnit.ne_nil {unit : List Char} (h : IsUnit unit) : unit ≠ [] := by
  cases h <;> exact List.cons_ne_nil _ _

/-- A spelled character is one unit, or two where it is written as a pair. -/
theorem Scan.SpellsChar.isBody_append {spelling more : List Char} {c : Char}
    (h : SpellsChar spelling c) (hmore : IsBody more) : IsBody (spelling ++ more) := by
  cases h with
  | raw hquote hbackslash hcontrol => exact .cons (.raw hquote hbackslash hcontrol) hmore
  | letter h => exact .cons (.letter (by rw [h, Option.isSome_some])) hmore
  | code hlength hcode => exact .cons (.code hlength (by rw [hcode, Option.isSome_some])) hmore
  | pair hfirst hsecond hhigh hlow =>
    have hsecond := IsBody.cons (.code hsecond (by rw [hlow, Option.isSome_some])) hmore
    have hpair := IsBody.cons (.code hfirst (by rw [hhigh, Option.isSome_some])) hsecond
    simpa using hpair

theorem Scan.Spells.isBody {spelling characters : List Char} (h : Spells spelling characters) :
    IsBody spelling := by
  induction h with
  | nil => exact .nil
  | cons hc _ ih => exact hc.isBody_append ih

/-- A text between quotes. -/
def quoted (body : List Char) : List Char := '"' :: (body ++ ['"'])

/-! ## Numbers -/

def IsDigits (digits : List Char) : Prop := digits ≠ [] ∧ ∀ c ∈ digits, isDigit c = true

/-- The whole part of a number: zero, or digits that do not start with zero. -/
def IsWhole (whole : List Char) : Prop :=
  whole = ['0'] ∨ IsDigits whole ∧ whole.head? ≠ some '0'

/-- The fraction of a number, or nothing. -/
def IsFraction (fraction : List Char) : Prop :=
  fraction = [] ∨ ∃ digits, IsDigits digits ∧ fraction = '.' :: digits

/-- The exponent of a number, or nothing. -/
def IsExponent (exponent : List Char) : Prop :=
  exponent = [] ∨ ∃ mark sign digits, (mark = 'e' ∨ mark = 'E') ∧
    (sign = [] ∨ sign = ['+'] ∨ sign = ['-']) ∧ IsDigits digits ∧
      exponent = mark :: (sign ++ digits)

/-- Numbers without a sign. -/
inductive IsUnsigned : List Char → Prop
  | mk {whole fraction exponent : List Char} (hwhole : IsWhole whole)
    (hfraction : IsFraction fraction) (hexponent : IsExponent exponent) :
    IsUnsigned (whole ++ (fraction ++ exponent))

inductive IsNumber : List Char → Prop
  | unsigned {number : List Char} (h : IsUnsigned number) : IsNumber number
  | negative {number : List Char} (h : IsUnsigned number) : IsNumber ('-' :: number)

theorem IsUnsigned.exists_cons {number : List Char} (h : IsUnsigned number) :
    ∃ c rest, number = c :: rest ∧ isDigit c = true := by
  obtain ⟨hwhole, hfraction, hexponent⟩ := h
  obtain rfl | ⟨⟨hne, hdigits⟩, -⟩ := hwhole
  · exact ⟨'0', _, rfl, by decide⟩
  · obtain ⟨c, rest, rfl⟩ := List.exists_cons_of_ne_nil hne
    exact ⟨c, _, rfl, hdigits c List.mem_cons_self⟩

theorem IsNumber.exists_cons {number : List Char} (h : IsNumber number) :
    ∃ c rest, number = c :: rest ∧ (isDigit c = true ∨ c = '-') := by
  cases h with
  | unsigned h =>
    obtain ⟨c, rest, rfl, hc⟩ := h.exists_cons
    exact ⟨c, rest, rfl, .inl hc⟩
  | negative h => exact ⟨'-', _, rfl, .inr rfl⟩

/-! ## Values -/

/-- White space between tokens. -/
abbrev Blank := { text : List Char // IsBlank text }

/-- What stands before the value of a part: white space and, in an object, a key and its colon. -/
inductive Opening : Frame → Type
  | item (blank : Blank) : Opening .list
  | member (beforeKey : Blank) (key : List Char) (isBody : IsBody key)
    (beforeColon afterColon : Blank) : Opening .object

/-- An opening as it is written. -/
def Opening.text : {frame : Frame} → Opening frame → List Char
  | _, item blank => blank
  | _, member beforeKey key _ beforeColon afterColon =>
    beforeKey ++ (quoted key ++ (beforeColon ++ ':' :: afterColon.val))

/-- A part of a list or of an object: an item or a member. -/
structure Part (frame : Frame) where
  opening : Opening frame
  value : List Char
  closing : Blank

/-- A part as it is written. -/
def Part.text {frame : Frame} (part : Part frame) : List Char :=
  part.opening.text ++ (part.value ++ part.closing)

/-- The bracket that opens a frame. -/
def Scan.Frame.opening : Frame → Char
  | list => '['
  | object => '\x7b'

/-- The words that are values. -/
def words : List (List Char) :=
  [['n', 'u', 'l', 'l'], ['t', 'r', 'u', 'e'], ['f', 'a', 'l', 's', 'e']]

inductive IsValue : List Char → Prop
  | word {word : List Char} (h : word ∈ words) : IsValue word
  | number {number : List Char} (h : IsNumber number) : IsValue number
  | string {body : List Char} (h : IsBody body) : IsValue (quoted body)
  | empty (frame : Frame) (blank : Blank) :
    IsValue (frame.opening :: (blank.val ++ [frame.closing]))
  | filled {frame : Frame} {parts : List (Part frame)} (hparts : parts ≠ [])
    (hvalues : ∀ part ∈ parts, IsValue part.value) :
    IsValue (frame.opening ::
      (Document.commaSeparated (parts.map Part.text) ++ [frame.closing]))

theorem not_isSpace_of_isDigit {c : Char} (h : isDigit c = true) : isSpace c = false := by
  rw [Bool.eq_false_iff]
  intro hspace
  simp only [isSpace, Bool.or_eq_true, beq_iff_eq] at hspace
  rcases hspace with ((rfl | rfl) | rfl) | rfl <;> exact absurd h (by decide)

/-- The first character of a value is no white space, and does not close a list. -/
theorem IsValue.exists_cons {value : List Char} (h : IsValue value) :
    ∃ c rest, value = c :: rest ∧ isSpace c = false ∧ c ≠ ']' := by
  cases h with
  | word h =>
    rw [words, List.mem_cons, List.mem_cons, List.mem_singleton] at h
    rcases h with rfl | rfl | rfl <;> exact ⟨_, _, rfl, by decide, by decide⟩
  | number h =>
    obtain ⟨c, rest, rfl, hc | rfl⟩ := h.exists_cons
    · refine ⟨c, rest, rfl, not_isSpace_of_isDigit hc, ?_⟩
      rintro rfl
      exact absurd hc (by decide)
    · exact ⟨_, _, rfl, by decide, by decide⟩
  | string h => exact ⟨_, _, rfl, by decide, by decide⟩
  | empty frame => exact ⟨_, _, rfl, by cases frame <;> decide, by cases frame <;> decide⟩
  | @filled frame => exact ⟨_, _, rfl, by cases frame <;> decide, by cases frame <;> decide⟩

end StubLibc.Json
