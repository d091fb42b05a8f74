import StubLibc.Numeral

/-!
# What can be wrong with a JSON text

The causes for which reading stops, with their wording: first the faults of syntax, then members
that are missing or repeated, and last well-formed values that do not fit the place where they
stand.
-/

namespace StubLibc.Json

/-- Why a text was not read. -/
inductive Fault where
  | eofInValue
  | eofInString
  | eofInObject
  | eofInList
  | expectedColon
  | expectedObjectEnd
  | expectedListEnd
  | expectedWord
  | expectedValue
  | keyNotString
  | trailingComma
  | trailingCharacters
  | invalidEscape
  | controlCharacter
  | loneSurrogate
  | unpairedSurrogate
  | invalidNumber
  | numberOutOfRange
  | missingField (name : String)
  | duplicateField (name : String)
  /-- A name that is none of the `known` ones. -/
  | unknownVariant (found : String) (known : List String)
  /-- A value of another type than the place takes; both are described in words. -/
  | invalidType (found expected : String)
  /-- A list that ends after `length` items. -/
  | invalidLength (length : Nat) (expected : String)
  deriving DecidableEq, Repr

namespace Fault

/-- A name as messages show it. -/
def ticked (name : String) : String := "`" ++ name ++ "`"

/-- The choice among several names: all of them, or two joined by a word. -/
def choice (names : List String) : String :=
  match names with
  | [one] => ticked one
  | [one, other] => ticked one ++ " or " ++ ticked other
  | _ => "one of " ++ ", ".intercalate (names.map ticked)

def message : Fault → String
  | eofInValue => "EOF while parsing a value"
  | eofInString => "EOF while parsing a string"
  | eofInObject => "EOF while parsing an object"
  | eofInList => "EOF while parsing a list"
  | expectedColon => "expected `:`"
  | expectedObjectEnd => "expected `,` or `\x7d`"
  | expectedListEnd => "expected `,` or `]`"
  | expectedWord => "expected ident"
  | expectedValue => "expected value"
  | keyNotString => "key must be a string"
  | trailingComma => "trailing comma"
  | trailingCharacters => "trailing characters"
  | invalidEscape => "invalid escape"
  | controlCharacter => "control character (\\u0000-\\u001F) found while parsing a string"
  | loneSurrogate => "lone leading surrogate in hex escape"
  | unpairedSurrogate => "unexpected end of hex escape"
  | invalidNumber => "invalid number"
  | numberOutOfRange => "number out of range"
  | missingField name => "missing field " ++ ticked name
  | duplicateField name => "duplicate field " ++ ticked name
  | unknownVariant found known =>
    "unknown variant " ++ ticked found ++ ", expected " ++ choice known
  | invalidType found expected => "invalid type: " ++ found ++ ", expected " ++ expected
  | invalidLength length expected =>
    "invalid length " ++ Numeral.ofNat length ++ ", expected " ++ expected

end Fault

end StubLibc.Json
