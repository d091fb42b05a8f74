import StubLibc.Decimal.Shortest
import StubLibc.Numeral

/-!
# Decimal text of doubles

A double is written with its shortest digits, positionally while the exponent of its leading digit
lies in a range and in scientific form outside it.  The positional form always has a point; the
scientific form has one only between digits.
-/

namespace StubLibc.Decimal

/-- Where positional form ends. -/
structure Style where
  /-- The least exponent of a leading digit that is written positionally. -/
  leastPositional : Int
  /-- The greatest such exponent. -/
  greatestPositional : Int
  deriving DecidableEq, Repr

/-- Positional from `1e-5` up to below `1e16`. -/
def messageStyle : Style := ⟨-5, 15⟩

/-- Decimal digits without trailing zeros, and how many there were. -/
def stripZeros (digits : List Char) : List Char × Nat :=
  let kept := (digits.reverse.dropWhile (· == '0')).reverse
  (kept, digits.length - kept.length)

/-- Digits with a point after the first `whole` of them. -/
def pointAfter (digits : List Char) (whole : Nat) : List Char :=
  digits.take whole ++ '.' :: digits.drop whole

/-- The positional form of `digits * 10 ^ exponent`. -/
def positional (digits : List Char) (exponent : Int) : List Char :=
  if 0 ≤ exponent then digits ++ List.replicate exponent.toNat '0' ++ ['.', '0']
  else
    let places := exponent.natAbs
    let padded := List.replicate (places + 1 - digits.length) '0' ++ digits
    pointAfter padded (padded.length - places)

/-- The scientific form of digits whose first one has the exponent `leading`. -/
def scientific (digits : List Char) (leading : Int) : List Char :=
  let mantissa := if digits.length ≤ 1 then digits else pointAfter digits 1
  mantissa ++ 'e' :: (if leading < 0 then '-' else '+') ::
    Numeral.digits .decimal leading.natAbs

/-- The text of a positive decimal. -/
def Scaled.write (style : Style) (decimal : Scaled) : List Char :=
  let (digits, zeros) := stripZeros (Numeral.digits .decimal decimal.digits)
  let exponent := decimal.exponent + zeros
  let leading := exponent + digits.length - 1
  if style.leastPositional ≤ leading ∧ leading ≤ style.greatestPositional then
    positional digits exponent
  else
    scientific digits leading

/-- The text of a finite double. -/
def ofFloat (style : Style) (x : Float) : String :=
  let bits := x.toBits
  let sign := if bits >>> 63 = 1 then ['-'] else []
  let size :=
    match Binary.ofBits? bits with
    | some x => x.shortest.write style
    | none => ['0', '.', '0']
  String.ofList (sign ++ size)

end StubLibc.Decimal
