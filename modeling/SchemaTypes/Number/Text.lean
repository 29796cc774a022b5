import SchemaTypes.Number.Shortest

/-!
The written form of a binary64 value: positional with a point while the exponent of the leading
digit is between -5 and 15, otherwise one leading digit and a signed exponent.
-/
namespace SchemaTypes

namespace Binary64

/-- Exponents of the leading digit that are written positionally. -/
def isPositional (leading : Int) : Bool := -5 ≤ leading && leading ≤ 15

def zeros (n : Nat) : List Char := List.replicate n '0'

/-- Lays the digits out around the point, which stands after the digit of exponent zero. -/
def positional (digits : List Char) (leading : Int) : List Char :=
  if leading < 0 then '0' :: '.' :: zeros (leading.natAbs - 1) ++ digits
  else
    let whole := leading.toNat + 1
    if digits.length ≤ whole then digits ++ zeros (whole - digits.length) ++ ['.', '0']
    else digits.take whole ++ '.' :: digits.drop whole

def scientific (digits : List Char) (leading : Int) : List Char :=
  let fraction := if digits.length ≤ 1 then [] else '.' :: digits.drop 1
  let sign := if leading < 0 then '-' else '+'
  digits.take 1 ++ fraction ++ 'e' :: sign :: Nat.toDigits 10 leading.natAbs

def text (x : Binary64) : String :=
  let magnitude :=
    if x.isZero then ['0', '.', '0']
    else
      let decimal := x.shortest
      let digits := Nat.toDigits 10 decimal.digits
      let leading := decimal.exponent + digits.length - 1
      if isPositional leading then positional digits leading else scientific digits leading
  String.ofList (if x.isNegative then '-' :: magnitude else magnitude)

end Binary64

end SchemaTypes
