/-!
# Byte strings

C text is bytes without an encoding.  Everything the library reads from or writes to the hosted
program is a `Bytes`; Unicode text enters only through `Bytes.ofText`, its UTF-8 encoding, and
ASCII text through `Bytes.ofAscii`, one byte for each character.
-/

namespace StubLibc

/-- The contents of a buffer or of a C string. -/
abbrev Bytes := List UInt8

namespace Bytes

/-- The UTF-8 encoding of a text. -/
def ofText (text : String) : Bytes :=
  text.toList.flatMap String.utf8EncodeChar

/-- The low byte of each character; for ASCII characters this is their UTF-8 encoding. -/
def ofAscii (characters : List Char) : Bytes :=
  characters.map Char.toUInt8

def isDigit (byte : UInt8) : Bool :=
  0x30 ≤ byte && byte ≤ 0x39

def digitValue (byte : UInt8) : Nat :=
  byte.toNat - 0x30

/-- Sends `A` to `Z` to `a` to `z` and keeps every other byte. -/
def lowerAscii (byte : UInt8) : UInt8 :=
  if 0x41 ≤ byte && byte ≤ 0x5A then byte + 0x20 else byte

@[simp]
theorem ofText_append (s t : String) : ofText (s ++ t) = ofText s ++ ofText t := by
  simp [ofText, String.toList_append]

@[simp]
theorem length_ofAscii (cs : List Char) : (ofAscii cs).length = cs.length := by
  simp [ofAscii]

end Bytes

end StubLibc
