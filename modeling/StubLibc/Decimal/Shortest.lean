/-!
# Shortest decimals

A finite positive double is `m * 2 ^ e`, and the reals that round to it form an interval around
it, whose ends belong to it exactly when `m` is even.  `Decimal.shortest` finds the fewest decimal
digits with a value in that interval: for one, two, … seventeen digits it tries the two decimals
of that many digits next to the double, and takes the nearer one when both lie in the interval.

All arithmetic is on natural numbers, so nothing is rounded.
-/

namespace StubLibc.Decimal

/-- A positive double `mantissa * 2 ^ exponent`. -/
structure Binary where
  mantissa : Nat
  exponent : Int
  /-- The double below is half as far away as the one above. -/
  narrowBelow : Bool
  deriving DecidableEq, Repr

/-- A decimal `digits * 10 ^ exponent`. -/
structure Scaled where
  digits : Nat
  exponent : Int
  deriving DecidableEq, Repr

/-- The double with the given bits, sign apart; `none` for zero, infinities and NaN. -/
def Binary.ofBits? (bits : UInt64) : Option Binary :=
  let fraction : Nat := (bits &&& 0xFFFFFFFFFFFFF).toNat
  let biased : Nat := (bits >>> 52 &&& 0x7FF).toNat
  if biased = 0 then
    if fraction = 0 then none else some ⟨fraction, -1074, false⟩
  else if biased = 0x7FF then none
  else some ⟨0x10000000000000 + fraction, (biased : Int) - 1075, fraction == 0 && biased > 1⟩

/-- A base to a power, as the numerator and denominator of a fraction. -/
def ratioOfPower (base : Nat) (exponent : Int) : Nat × Nat :=
  if exponent < 0 then (1, base.pow exponent.natAbs) else (base.pow exponent.natAbs, 1)

/-- Compares `a * 2 ^ e` with `d * 10 ^ k`, for natural `a` and `d`. -/
def compare (a : Nat) (e : Int) (d : Nat) (k : Int) : Ordering :=
  let (twoTop, twoBottom) := ratioOfPower 2 e
  let (tenTop, tenBottom) := ratioOfPower 10 k
  Ord.compare (a * twoTop * tenBottom) (d * tenTop * twoBottom)

namespace Binary

/-- A decimal rounds to the double.  In quarters of the mantissa's unit the interval reaches two
quarters up and two, or one, down. -/
def contains (x : Binary) (decimal : Scaled) : Bool :=
  let closed := x.mantissa % 2 == 0
  let below := compare (4 * x.mantissa - if x.narrowBelow then 1 else 2) (x.exponent - 2)
    decimal.digits decimal.exponent
  let above := compare (4 * x.mantissa + 2) (x.exponent - 2) decimal.digits decimal.exponent
  (below == .lt || (closed && below == .eq)) && (above == .gt || (closed && above == .eq))

/-- The greatest number of units `10 ^ exponent` that does not exceed the double. -/
def floorAt (x : Binary) (exponent : Int) : Nat :=
  let (twoTop, twoBottom) := ratioOfPower 2 x.exponent
  let (tenTop, tenBottom) := ratioOfPower 10 exponent
  x.mantissa * twoTop * tenBottom / (twoBottom * tenTop)

/-- The exponent of the leading decimal digit, searched downwards from `start`. -/
def leadingExponent (x : Binary) : Nat → Int → Int
  | 0, exponent => exponent
  | fuel + 1, exponent =>
    if x.floorAt exponent = 0 then leadingExponent x fuel (exponent - 1) else exponent

/-- Compares the double with the middle between a decimal and the next one on its grid. -/
def compareMiddle (x : Binary) (lower : Nat) (exponent : Int) : Ordering :=
  compare (2 * x.mantissa) x.exponent (2 * lower + 1) exponent

/-- The better of the two decimals next to the double on a grid, if one rounds to it.  Of two
equally near ones the even one is taken. -/
def onGrid? (x : Binary) (exponent : Int) : Option Scaled :=
  let lower : Scaled := ⟨x.floorAt exponent, exponent⟩
  let upper : Scaled := ⟨lower.digits + 1, exponent⟩
  match x.contains lower, x.contains upper with
  | true, true =>
    match x.compareMiddle lower.digits exponent with
    | .lt => some lower
    | .gt => some upper
    | .eq => if lower.digits % 2 = 0 then some lower else some upper
  | true, false => some lower
  | false, true => some upper
  | false, false => none

/-- The first hit on grids that become finer, one digit at a time. -/
def search (x : Binary) : Nat → Int → Scaled
  | 0, exponent => ⟨x.floorAt exponent, exponent⟩
  | fuel + 1, exponent => (x.onGrid? exponent).getD (search x fuel (exponent - 1))

/-- The shortest decimal that rounds to the double. -/
def shortest (x : Binary) : Scaled := x.search 17 (x.leadingExponent 640 309)

end Binary

end StubLibc.Decimal
