/-!
Binary64 values, held by their bits, and the reading of a decimal `n · 10^e` into one.

Decimals are scaled in floating point by a table power of ten, so the last bit is the one that a
single rounded multiplication or division gives. A decimal beyond the largest value is refused.
-/
namespace SchemaTypes

/-- A finite binary64 value. -/
structure Binary64 where
  bits : UInt64
  deriving DecidableEq, Repr

namespace Binary64

def signBit : UInt64 := 0x8000000000000000

def zero : Binary64 := ⟨0⟩

def negZero : Binary64 := ⟨signBit⟩

/-- Either zero; the two differ in their sign bit only. -/
def isZero (x : Binary64) : Bool := x == zero || x == negZero

def isNegative (x : Binary64) : Bool := x.bits &&& signBit != 0

def neg (x : Binary64) : Binary64 := ⟨x.bits ^^^ signBit⟩

/-- Numerical equality: the zeros are equal, all other finite values are told apart by their
bits. -/
def same (x y : Binary64) : Bool := x == y || (x.isZero && y.isZero)

theorem same_refl (x : Binary64) : same x x = true := by simp [same]

theorem same_comm (x y : Binary64) : same x y = same y x := by
  simp only [same, Bool.and_comm, Bool.beq_comm (a := x)]

theorem same_trans {x y z : Binary64} (hxy : same x y = true) (hyz : same y z = true) :
    same x z = true := by
  simp only [same, Bool.or_eq_true, beq_iff_eq, Bool.and_eq_true] at *
  rcases hxy with rfl | hxy
  · exact hyz
  · rcases hyz with rfl | hyz
    · exact .inr hxy
    · exact .inr ⟨hxy.1, hyz.2⟩

def ofFloat (f : Float) : Binary64 := ⟨f.toBits⟩

/-- The largest power of ten that is a binary64 value has this exponent. -/
def maxPower : Nat := 308

def power (n : Nat) : Float := Float.ofScientific 1 false n

/-- `f · 10^e`, refused when it overflows. Very small exponents are taken in several divisions. -/
def scale (f : Float) (e : Int) : Option Float :=
  if e.natAbs ≤ maxPower then
    if 0 ≤ e then
      let product := f * power e.natAbs
      if product.isInf then none else some product
    else some (f / power e.natAbs)
  else if f == 0 then some f
  else if 0 ≤ e then none
  else scale (f / power maxPower) (e + maxPower)
termination_by e.natAbs
decreasing_by simp only [maxPower] at *; omega

/-- The value of `significand · 10^exponent`, for a significand below `2^64`. -/
def ofDecimal (significand : Nat) (exponent : Int) : Option Binary64 :=
  (scale (Float.ofScientific significand false 0) exponent).map ofFloat

end Binary64

end SchemaTypes
