import SchemaTypes.Number.Binary64

/-!
The fewest decimal digits that read back to a binary64 value.

The value and the two ends of the interval of reals that round to it are written as naturals over
one power of ten. The digits are then the multiple of the largest power of ten that lies in the
interval: of two candidates the nearer one, of two equally near ones the even one. The exact
expansion itself is the last candidate, so the search always ends with an answer.
-/
namespace SchemaTypes

structure Decimal where
  digits : Nat
  exponent : Int
  deriving DecidableEq, Repr

namespace Decimal

/-- Moves a trailing zero of the digits into the exponent, for at most `bound` zeros. -/
def strip : Nat → Decimal → Decimal
  | 0, d => d
  | bound + 1, d =>
    if d.digits % 10 = 0 then strip bound ⟨d.digits / 10, d.exponent + 1⟩ else d

def digitCount (n : Nat) : Nat := (Nat.toDigits 10 n).length

end Decimal

/-- The reals that round to one value: those between `low` and `high`, over a common power of ten,
the ends included when `closed`. -/
structure RoundingInterval where
  low : Nat
  value : Nat
  high : Nat
  exponent : Int
  closed : Bool
  deriving DecidableEq, Repr

namespace RoundingInterval

/-- The interval of a value of nonzero magnitude, its sign left out. One unit below is a quarter of
the gap to the next value; below a power of two the gap is half as wide. -/
def ofBinary64 (x : Binary64) : RoundingInterval :=
  let fraction := (x.bits &&& 0xFFFFFFFFFFFFF).toNat
  let biased := ((x.bits >>> 52) &&& 0x7FF).toNat
  let mantissa := if biased = 0 then fraction else Nat.pow 2 52 + fraction
  let binaryExponent : Int := (if biased = 0 then 1 else biased : Nat) - 1077
  let below := if fraction = 0 ∧ 1 < biased then 1 else 2
  let unit := if binaryExponent < 0 then Nat.pow 5 binaryExponent.natAbs
    else Nat.pow 2 binaryExponent.natAbs
  { low := (4 * mantissa - below) * unit
    value := 4 * mantissa * unit
    high := (4 * mantissa + 2) * unit
    exponent := min binaryExponent 0
    closed := mantissa % 2 = 0 }

def contains (i : RoundingInterval) (n : Nat) : Bool :=
  if i.closed then i.low ≤ n && n ≤ i.high else i.low < n && n < i.high

/-- The multiple of `step` in the interval that is nearest to the value, of the value's two
neighbours. -/
def nearest? (i : RoundingInterval) (step : Nat) : Option Nat :=
  let down := i.value / step
  let up := down + 1
  match i.contains (down * step), i.contains (up * step) with
  | false, false => none
  | true, false => some down
  | false, true => some up
  | true, true =>
    match compare (2 * i.value) ((down + up) * step) with
    | .lt => some down
    | .gt => some up
    | .eq => some (if down % 2 = 0 then down else up)

def search (i : RoundingInterval) : Nat → Decimal
  | 0 => ⟨i.value, i.exponent⟩
  | places + 1 =>
    match i.nearest? (10 ^ (places + 1)) with
    | some digits => ⟨digits, i.exponent + (places + 1 : Nat)⟩
    | none => search i places

end RoundingInterval

namespace Binary64

/-- The fewest digits that identify the magnitude of a nonzero value. -/
def shortest (x : Binary64) : Decimal :=
  let interval := RoundingInterval.ofBinary64 x
  let count := Decimal.digitCount interval.value
  (interval.search (count - 1)).strip count

end Binary64

end SchemaTypes
