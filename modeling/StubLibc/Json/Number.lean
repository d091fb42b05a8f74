import StubLibc.Decimal.Style
import StubLibc.Json.Scan

/-!
# Reading JSON numbers

`Scan.numeral` takes the spelling of a number apart.  `Numeral.value` evaluates a spelling: a
whole number that fits 64 bits stays exact, and any other becomes a double, computed from the
leading digits that fit a machine word and a power of ten.  A double too large to be finite is out
of range.
-/

namespace StubLibc.Json

/-- The parts of a number's spelling. -/
structure Spelling where
  negative : Bool
  whole : List Char
  fraction : Option (List Char)
  /-- The sign of the exponent, true for a minus, and its digits. -/
  exponent : Option (Bool × List Char)
  deriving DecidableEq, Repr

/-- The value of a number. -/
inductive Number where
  | integer (value : Int)
  | float (value : Float)

/-- The words for a number in messages. -/
def Number.describe : Number → String
  | integer value => "integer `" ++ Numeral.ofInt value ++ "`"
  | float value => "floating point `" ++ Decimal.ofFloat Decimal.messageStyle value ++ "`"

namespace Scan

def isDigit (c : Char) : Bool := '0' ≤ c && c ≤ '9'

/-- Digits of which there has to be one at least. -/
def digits (atEnd : Fault) : Scan (List Char) := do
  let run ← span isDigit
  if run.isEmpty then
    match ← peek with
    | none => fail atEnd
    | some _ => fail .invalidNumber
  else pure run

/-- The whole part of a number: zero, or digits that do not start with zero. -/
def wholePart (atEnd : Fault) : Scan (List Char) := do
  match ← peek with
  | none => fail atEnd
  | some c =>
    if c = '0' then
      let _ ← next
      match ← peek with
      | some d => if isDigit d then fail .invalidNumber else pure ['0']
      | none => pure ['0']
    else if isDigit c then span isDigit
    else fail .invalidNumber

/-- The fraction, if a point is next. -/
def fractionPart (atEnd : Fault) : Scan (Option (List Char)) := do
  if (← peek) = some '.' then
    let _ ← next
    some <$> digits atEnd
  else pure none

/-- The exponent, if its letter is next. -/
def exponentPart (atEnd : Fault) : Scan (Option (Bool × List Char)) := do
  let mark ← peek
  if mark = some 'e' ∨ mark = some 'E' then
    let _ ← next
    let sign ← peek
    if sign = some '+' ∨ sign = some '-' then
      let _ ← next
      pure ()
    let size ← digits atEnd
    pure (some (sign = some '-', size))
  else pure none

/-- The spelling of a number, after its sign.  `atEnd` is the fault of a text that ends where a
digit is due. -/
def spelling (negative : Bool) (atEnd : Fault) : Scan Spelling := do
  let whole ← wholePart atEnd
  let fraction ← fractionPart atEnd
  let exponent ← exponentPart atEnd
  pure ⟨negative, whole, fraction, exponent⟩

end Scan

namespace Spelling

/-- Appends digits to a significand while it fits a machine word; the digits that do not fit are
given back. -/
def accumulate (significand : Nat) : List Char → Nat × List Char
  | [] => (significand, [])
  | c :: rest =>
    let longer := significand * 10 + (c.toNat - '0'.toNat)
    if longer > Numeral.wordMax then (significand, c :: rest) else accumulate longer rest

/-- Divides by powers of ten until the exponent is one that a double has. -/
def scaleDown (x : Float) (exponent : Nat) : Float :=
  if 308 < exponent then
    if x == 0 then x else scaleDown (x / 1e308) (exponent - 308)
  else x / Float.ofScientific 1 false exponent
termination_by exponent
decreasing_by omega

/-- The double nearest to a significand, times a power of ten. -/
def scale (significand : Nat) (exponent : Int) : Except Fault Float :=
  let x := (UInt64.ofNat significand).toFloat
  if exponent < 0 then .ok (scaleDown x exponent.natAbs)
  else if significand = 0 then .ok x
  else if 308 < exponent then .error .numberOutOfRange
  else
    let scaled := x * Float.ofScientific 1 false exponent.toNat
    if scaled.isInf then .error .numberOutOfRange else .ok scaled

/-- The largest exponent that is applied digit by digit; beyond it a number is zero or out of
range. -/
def exponentMax : Nat := 0x7FFFFFFF

/-- The number as a double, sign apart. -/
def magnitude (spelling : Spelling) : Except Fault Float :=
  let (significand, dropped) := accumulate 0 spelling.whole
  let fraction := spelling.fraction.getD []
  let (significand, unused) := accumulate significand fraction
  let start : Int := (dropped.length : Int) - ((fraction.length - unused.length : Nat) : Int)
  match spelling.exponent with
  | none => scale significand start
  | some (negative, digits) =>
    let size := digits.foldl (fun value c => value * 10 + (c.toNat - '0'.toNat)) 0
    if size > exponentMax then
      if significand ≠ 0 ∧ ¬ negative then .error .numberOutOfRange else .ok 0
    else scale significand (if negative then start - size else start + size)

def value (spelling : Spelling) : Except Fault Number :=
  let signed (x : Float) : Number := .float (if spelling.negative then -x else x)
  match spelling.fraction, spelling.exponent, accumulate 0 spelling.whole with
  | none, none, (significand, []) =>
    if ¬ spelling.negative then .ok (.integer significand)
    else if significand = 0 ∨ 0x8000000000000000 < significand then
      .ok (signed (UInt64.ofNat significand).toFloat)
    else .ok (.integer (-significand))
  | _, _, _ => spelling.magnitude.map signed

end Spelling

end StubLibc.Json
