import Mathlib.Algebra.Ring.Nat
import StubLibc.Format.Render

/-!
# Integers of a C type

An argument of either integer class is one word.  Reading it as a C type of fewer bits keeps the
low ones: a signed type has the residue of the word that is nearest to zero, an unsigned type the
one that is not negative.
-/

namespace StubLibc

theorem Arg.asInt?_eq (arg : Arg) : arg.asInt? = arg.asUint?.map UInt64.toInt64 := by
  cases arg <;> rfl

/-- A word as a signed number of some bits. -/
def signedResidue (bits : Nat) (word : UInt64) : Int := Int.bmod word.toNat (2 ^ bits)

theorem toInt_toInt64 (word : UInt64) : word.toInt64.toInt = signedResidue 64 word := by
  rw [← Int64.toInt_toBitVec, BitVec.toInt_eq_toNat_bmod]
  rfl

theorem bmod_toInt_toInt64 (word : UInt64) {bits : Nat} (h : bits ≤ 64) :
    Int.bmod word.toInt64.toInt (2 ^ bits) = signedResidue bits word := by
  rw [toInt_toInt64, signedResidue, signedResidue, Int.bmod_bmod_of_dvd (Nat.pow_dvd_pow 2 h)]

theorem toInt_toInt32_toInt64 (word : UInt64) :
    word.toInt64.toInt32.toInt = signedResidue 32 word := by
  rw [Int64.toInt_toInt32]
  exact bmod_toInt_toInt64 word (by decide)

theorem toInt_toInt32 (value : Int64) : value.toInt32.toInt = signedResidue 32 value.toUInt64 := by
  rw [← toInt_toInt32_toInt64, Int64.toInt64_toUInt64]

namespace Format.Length

def bits : Length → Nat
  | hh => 8
  | h => 16
  | plain => 32
  | l | ll | bigL | z | j | t => 64

theorem narrowSigned_toInt64 (length : Length) (word : UInt64) :
    length.narrowSigned word.toInt64 = signedResidue length.bits word := by
  cases length
  case hh =>
    rw [narrowSigned, Int64.toInt_toInt8]
    exact bmod_toInt_toInt64 word (by decide)
  case h =>
    rw [narrowSigned, Int64.toInt_toInt16]
    exact bmod_toInt_toInt64 word (by decide)
  case plain => exact toInt_toInt32_toInt64 word
  all_goals exact toInt_toInt64 word

theorem narrowSigned_eq (length : Length) (value : Int64) :
    length.narrowSigned value = signedResidue length.bits value.toUInt64 := by
  rw [← narrowSigned_toInt64, Int64.toInt64_toUInt64]

theorem narrowUnsigned_eq (length : Length) (word : UInt64) :
    length.narrowUnsigned word = word.toNat % 2 ^ length.bits := by
  cases length
  case hh => exact UInt64.toNat_toUInt8 word
  case h => exact UInt64.toNat_toUInt16 word
  case plain => exact UInt64.toNat_toUInt32 word
  all_goals exact (Nat.mod_eq_of_lt word.toNat_lt).symm

theorem natAbs_narrowSigned_lt (length : Length) (value : Int64) :
    (length.narrowSigned value).natAbs < 2 ^ 64 := by
  have hbits : 2 ^ length.bits ≤ 2 ^ 64 := by
    cases length <;> decide
  rw [narrowSigned_eq, signedResidue]
  have hpos : 0 < 2 ^ length.bits := Nat.two_pow_pos _
  have hlower := Int.le_bmod (x := value.toUInt64.toNat) hpos
  have hupper := Int.bmod_lt (x := value.toUInt64.toNat) hpos
  omega

theorem narrowUnsigned_lt (length : Length) (word : UInt64) :
    length.narrowUnsigned word < 2 ^ 64 := by
  rw [narrowUnsigned_eq]
  exact Nat.lt_of_le_of_lt (Nat.mod_le _ _) word.toNat_lt

end Format.Length

end StubLibc
