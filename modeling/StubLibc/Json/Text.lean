import StubLibc.Json.Scan

/-!
# Reading JSON strings

`Scan.string` reads the characters of a string whose opening quote has been taken, up to and with
the closing quote.  Surrogate escapes have to come in pairs.  `Scan.skipString` passes over a
string whose value is not wanted: escapes are still checked, their pairing is not.
-/

namespace StubLibc.Json.Scan

/-- The value of a hexadecimal digit of either case. -/
def hexValue? (c : Char) : Option Nat :=
  if '0' ≤ c && c ≤ '9' then some (c.toNat - '0'.toNat)
  else if 'a' ≤ c && c ≤ 'f' then some (c.toNat - 'a'.toNat + 10)
  else if 'A' ≤ c && c ≤ 'F' then some (c.toNat - 'A'.toNat + 10)
  else none

/-- The value of hexadecimal digits, the first one most significant. -/
def hexNumber? (digits : List Char) : Option Nat :=
  digits.foldlM (fun value c => (hexValue? c).map (value * 16 + ·)) 0

def utf8Size (text : List Char) : Nat :=
  text.foldl (fun size c => size + c.utf8Size) 0

def four : Scan (List Char) where
  run text := .ok (text.take 4, text.drop 4)
  length_le h := by
    simp only [Except.ok.injEq, Prod.mk.injEq] at h
    rw [← h.2]
    simp

/-- The number of a four-digit escape.  The text ends inside the escape when fewer than four bytes
of it are left. -/
def hexEscape : Scan Nat := do
  let digits ← four
  if utf8Size digits < 4 then fail .eofInString
  else
    match hexNumber? digits with
    | some value => pure value
    | none => fail .invalidEscape

/-- The first code of a surrogate pair. -/
def isHighSurrogate (code : Nat) : Bool := 0xD800 ≤ code && code ≤ 0xDBFF

/-- The second code of a surrogate pair. -/
def isLowSurrogate (code : Nat) : Bool := 0xDC00 ≤ code && code ≤ 0xDFFF

/-- Takes a character that has to be there. -/
def nextInString : Scan Char := do
  match ← next with
  | some c => pure c
  | none => fail .eofInString

/-- The character of a `\u` escape, after its two letters. -/
def unicodeEscape : Scan Char := do
  let code ← hexEscape
  if isLowSurrogate code then fail .loneSurrogate
  else if isHighSurrogate code then
    if (← nextInString) ≠ '\\' then fail .unpairedSurrogate
    else if (← nextInString) ≠ 'u' then fail .unpairedSurrogate
    else
      let low ← hexEscape
      if isLowSurrogate low then
        pure (Char.ofNat ((code - 0xD800) * 0x400 + (low - 0xDC00) + 0x10000))
      else fail .loneSurrogate
  else pure (Char.ofNat code)

/-- The character that a one-letter escape stands for. -/
def letterEscape? (c : Char) : Option Char :=
  match c with
  | '"' => some '"'
  | '\\' => some '\\'
  | '/' => some '/'
  | 'b' => some (Char.ofNat 0x08)
  | 'f' => some (Char.ofNat 0x0C)
  | 'n' => some '\n'
  | 'r' => some '\r'
  | 't' => some '\t'
  | _ => none

/-- The character of an escape, after its backslash. -/
def escaped : Scan Char := do
  let c ← nextInString
  match letterEscape? c with
  | some value => pure value
  | none => if c = 'u' then unicodeEscape else fail .invalidEscape

/-- One character of a string, or its end. -/
def stringStep (taken : List Char) : Scan (List Char ⊕ List Char) := do
  let c ← nextInString
  if c = '"' then pure (.inr taken.reverse)
  else if c = '\\' then
    let value ← escaped
    pure (.inl (value :: taken))
  else if c.toNat < 0x20 then fail .controlCharacter
  else pure (.inl (c :: taken))

/-- The characters of a string, after its opening quote. -/
def string : Scan (List Char) := loop stringStep []

/-- Passes over an escape, after its backslash. -/
def skipEscaped : Scan Unit := do
  let c ← nextInString
  if (letterEscape? c).isSome then pure ()
  else if c = 'u' then
    let _ ← hexEscape
    pure ()
  else fail .invalidEscape

/-- Passes over one character of a string, or its end. -/
def skipStringStep (_ : Unit) : Scan (Unit ⊕ Unit) := do
  let c ← nextInString
  if c = '"' then pure (.inr ())
  else if c = '\\' then
    skipEscaped
    pure (.inl ())
  else if c.toNat < 0x20 then fail .controlCharacter
  else pure (.inl ())

/-- Passes over a string, after its opening quote. -/
def skipString : Scan Unit := loop skipStringStep ()

end StubLibc.Json.Scan
