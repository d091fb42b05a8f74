import StubLibc.Numeral

/-!
# Writing JSON

The documents that reports and diagnostic lines are made of, in two printed forms: compact, with
no white space between tokens, and pretty, indented by two spaces.  In a string the quote, the
backslash and the control characters are escaped, the latter by a letter where JSON has one, and
every other character stands for itself.
-/

namespace StubLibc.Json

/-- A document to be written; members keep their order. -/
inductive Document where
  | text (value : String)
  | natural (value : Nat)
  | list (items : List Document)
  | object (members : List (String × Document))

/-- The lower-case hexadecimal digit of a value below sixteen. -/
def hexDigit (value : Nat) : Char := Radix.hexLower.digit value

/-- The characters that stand for one character inside a string. -/
def escape (c : Char) : List Char :=
  if c = '"' then ['\\', '"']
  else if c = '\\' then ['\\', '\\']
  else if c = '\n' then ['\\', 'n']
  else if c = '\r' then ['\\', 'r']
  else if c = '\t' then ['\\', 't']
  else if c.toNat = 0x08 then ['\\', 'b']
  else if c.toNat = 0x0C then ['\\', 'f']
  else if c.toNat < 0x20 then
    ['\\', 'u', '0', '0', hexDigit (c.toNat / 16), hexDigit (c.toNat % 16)]
  else [c]

def quote (value : String) : List Char :=
  '"' :: value.toList.flatMap escape ++ ['"']

namespace Document

def commaSeparated (parts : List (List Char)) : List Char :=
  (parts.intersperse [',']).flatten

mutual

def compact : Document → List Char
  | text value => quote value
  | natural value => Numeral.digits .decimal value
  | list items => '[' :: commaSeparated (compactItems items) ++ [']']
  | object members => '\x7b' :: commaSeparated (compactMembers members) ++ ['\x7d']

def compactItems : List Document → List (List Char)
  | [] => []
  | item :: rest => item.compact :: compactItems rest

def compactMembers : List (String × Document) → List (List Char)
  | [] => []
  | (key, value) :: rest => (quote key ++ ':' :: value.compact) :: compactMembers rest

end

/-- The start of a line at a nesting depth. -/
def indentation (depth : Nat) : List Char :=
  '\n' :: List.replicate (2 * depth) ' '

/-- Brackets around parts, each on a line of its own; nothing between the brackets when there are
no parts. -/
def bracketed (opening closing : Char) (depth : Nat) (parts : List (List Char)) : List Char :=
  if parts.isEmpty then [opening, closing]
  else
    opening :: commaSeparated (parts.map (indentation (depth + 1) ++ ·)) ++
      indentation depth ++ [closing]

mutual

/-- The pretty form of a document that stands at a nesting depth. -/
def prettyAt (depth : Nat) : Document → List Char
  | text value => quote value
  | natural value => Numeral.digits .decimal value
  | list items => bracketed '[' ']' depth (prettyItems (depth + 1) items)
  | object members => bracketed '\x7b' '\x7d' depth (prettyMembers (depth + 1) members)

def prettyItems (depth : Nat) : List Document → List (List Char)
  | [] => []
  | item :: rest => item.prettyAt depth :: prettyItems depth rest

def prettyMembers (depth : Nat) : List (String × Document) → List (List Char)
  | [] => []
  | (key, value) :: rest =>
    (quote key ++ ':' :: ' ' :: value.prettyAt depth) :: prettyMembers depth rest

end

def pretty (document : Document) : List Char := document.prettyAt 0

end Document

end StubLibc.Json
