import StubLibc.Bytes

/-!
# Numerals

Writing a natural number in base ten or sixteen, most significant digit first and without leading
zeros, and reading a run of decimal digits with a ceiling.  Zero is written with one digit.
-/

namespace StubLibc

/-- The ways in which a number is written. -/
inductive Radix where
  | decimal
  | hexLower
  | hexUpper
  deriving DecidableEq, Repr

namespace Radix

def base : Radix → Nat
  | decimal => 10
  | hexLower => 16
  | hexUpper => 16

theorem two_le_base (radix : Radix) : 2 ≤ radix.base := by
  cases radix <;> decide

/-- The character for a digit below the base. -/
def digit (radix : Radix) (value : Nat) : Char :=
  if value < 10 then Char.ofNat (0x30 + value)
  else
    match radix with
    | hexUpper => Char.ofNat (0x41 + (value - 10))
    | _ => Char.ofNat (0x61 + (value - 10))

end Radix

namespace Numeral

/-- The digits of `n`, most significant first; `0` has the one digit zero. -/
def digits (radix : Radix) (n : Nat) : List Char :=
  if n < radix.base then [radix.digit n]
  else digits radix (n / radix.base) ++ [radix.digit (n % radix.base)]
termination_by n
decreasing_by
  have := radix.two_le_base
  exact Nat.div_lt_self (by omega) (by omega)

/-- The decimal text of a natural number. -/
def ofNat (n : Nat) : String :=
  String.ofList (digits .decimal n)

/-- The decimal text of an integer, with `-` before a negative one. -/
def ofInt (n : Int) : String :=
  if n < 0 then "-" ++ ofNat n.natAbs else ofNat n.natAbs

/-- The largest 64-bit word, where reading a decimal field stops growing. -/
def wordMax : Nat := 0xFFFFFFFFFFFFFFFF

/-- The value of a run of decimal digits, held at `wordMax` once it would exceed it. -/
def readSaturating (run : Bytes) : Nat :=
  run.foldl (fun value byte => min wordMax (min wordMax (value * 10) + Bytes.digitValue byte)) 0

theorem digits_of_lt {radix : Radix} {n : Nat} (h : n < radix.base) :
    digits radix n = [radix.digit n] := by
  rw [digits, if_pos h]

theorem digits_of_le {radix : Radix} {n : Nat} (h : radix.base ≤ n) :
    digits radix n = digits radix (n / radix.base) ++ [radix.digit (n % radix.base)] := by
  rw [digits, if_neg (by omega)]

end Numeral

end StubLibc
