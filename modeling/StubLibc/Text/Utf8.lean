import StubLibc.Bytes

/-!
# Decoding UTF-8

`Utf8.units` reads bytes as UTF-8 and gives one unit for each well-formed sequence, its character,
and one empty unit for each longest run of bytes that starts a sequence and cannot be completed.
`Utf8.decode?` accepts only text without empty units; `Utf8.decodeLossy` shows each of them as
U+FFFD.
-/

namespace StubLibc.Utf8

def isContinuation (byte : UInt8) : Bool :=
  0x80 ≤ byte && byte ≤ 0xBF

/-- The bytes that may come second after a leading byte of a three-byte sequence. -/
def isSecondOfThree (lead byte : UInt8) : Bool :=
  if lead = 0xE0 then 0xA0 ≤ byte && byte ≤ 0xBF
  else if lead = 0xED then 0x80 ≤ byte && byte ≤ 0x9F
  else isContinuation byte

/-- The bytes that may come second after a leading byte of a four-byte sequence. -/
def isSecondOfFour (lead byte : UInt8) : Bool :=
  if lead = 0xF0 then 0x90 ≤ byte && byte ≤ 0xBF
  else if lead = 0xF4 then 0x80 ≤ byte && byte ≤ 0x8F
  else isContinuation byte

/-- The six payload bits of a continuation byte. -/
def payload (byte : UInt8) : Nat := byte.toNat % 64

def ofTwo (a b : UInt8) : Char :=
  Char.ofNat (a.toNat % 32 * 64 + payload b)

def ofThree (a b c : UInt8) : Char :=
  Char.ofNat ((a.toNat % 16 * 64 + payload b) * 64 + payload c)

def ofFour (a b c d : UInt8) : Char :=
  Char.ofNat (((a.toNat % 8 * 64 + payload b) * 64 + payload c) * 64 + payload d)

/-- The units of a byte string, in order. -/
def units : Bytes → List (Option Char)
  | [] => []
  | a :: afterA =>
    if a < 0x80 then some (Char.ofUInt8 a) :: units afterA
    else if 0xC2 ≤ a && a ≤ 0xDF then
      match afterA with
      | [] => [none]
      | b :: afterB =>
        if isContinuation b then some (ofTwo a b) :: units afterB
        else none :: units (b :: afterB)
    else if 0xE0 ≤ a && a ≤ 0xEF then
      match afterA with
      | [] => [none]
      | b :: afterB =>
        if isSecondOfThree a b then
          match afterB with
          | [] => [none]
          | c :: afterC =>
            if isContinuation c then some (ofThree a b c) :: units afterC
            else none :: units (c :: afterC)
        else none :: units (b :: afterB)
    else if 0xF0 ≤ a && a ≤ 0xF4 then
      match afterA with
      | [] => [none]
      | b :: afterB =>
        if isSecondOfFour a b then
          match afterB with
          | [] => [none]
          | c :: afterC =>
            if isContinuation c then
              match afterC with
              | [] => [none]
              | d :: afterD =>
                if isContinuation d then some (ofFour a b c d) :: units afterD
                else none :: units (d :: afterD)
            else none :: units (c :: afterC)
        else none :: units (b :: afterB)
    else none :: units afterA

/-- The text of well-formed bytes. -/
def decode? (bytes : Bytes) : Option String :=
  ((units bytes).mapM id).map String.ofList

/-- The text of any bytes, with U+FFFD for each ill-formed run. -/
def decodeLossy (bytes : Bytes) : String :=
  String.ofList ((units bytes).map fun unit => unit.getD (Char.ofNat 0xFFFD))

end StubLibc.Utf8
