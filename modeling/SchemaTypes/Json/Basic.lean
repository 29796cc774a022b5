import SchemaTypes.Keyed
import SchemaTypes.Number.Binary64

/-!
JSON values. Integers and floats are kept apart, object members keep their written order, and
equality of values (`Json.same`) ignores that order.
-/
namespace SchemaTypes

/-- An integer, or a binary64 value written with a point or an exponent. -/
inductive Number where
  | int (value : Int)
  | float (value : Binary64)
  deriving DecidableEq, Repr

namespace Number

/-- An integer differs from the float of the same value. -/
def same : Number → Number → Bool
  | .int a, .int b => a == b
  | .float a, .float b => a.same b
  | _, _ => false

end Number

inductive Json where
  | null
  | bool (value : Bool)
  | num (value : Number)
  | str (value : String)
  | arr (items : List Json)
  | obj (members : List (String × Json))
  deriving Inhabited, Repr

/-- The members of an object, in written order. -/
abbrev Members := List (String × Json)

namespace Members

def get? (members : Members) (key : String) : Option Json := members.lookup key

def contains (members : Members) (key : String) : Bool := (members.get? key).isSome

end Members

namespace Json

def ofNat (n : Nat) : Json := .num (.int n)

def ofOption {α : Type} (encode : α → Json) : Option α → Json
  | none => .null
  | some value => encode value

def object? : Json → Option Members
  | .obj members => some members
  | _ => none

def array? : Json → Option (List Json)
  | .arr items => some items
  | _ => none

def string? : Json → Option String
  | .str value => some value
  | _ => none

def bool? : Json → Option Bool
  | .bool value => some value
  | _ => none

def nat? : Json → Option Nat
  | .num (.int value) => if 0 ≤ value then some value.toNat else none
  | _ => none

/-- The member `key` of an object. -/
def get? (value : Json) (key : String) : Option Json := value.object?.bind (·.get? key)

mutual

/-- Equality of values, objects compared without regard to the order of their members. -/
def same : Json → Json → Bool
  | .null, .null => true
  | .bool a, .bool b => a == b
  | .num a, .num b => a.same b
  | .str a, .str b => a == b
  | .arr as, .arr bs => sameItems as bs
  | .obj as, .obj bs => as.length == bs.length && sameMembers as bs
  | _, _ => false

def sameItems : List Json → List Json → Bool
  | [], [] => true
  | a :: as, b :: bs => same a b && sameItems as bs
  | _, _ => false

/-- Every member on the left has an equal one of its name on the right. -/
def sameMembers : List (String × Json) → List (String × Json) → Bool
  | [], _ => true
  | (key, a) :: as, bs =>
    (match bs.lookup key with
      | some b => same a b
      | none => false) && sameMembers as bs

end

mutual

/-- The number of values in a value, itself included. -/
def size : Json → Nat
  | .arr items => sizeItems items + 1
  | .obj members => sizeMembers members + 1
  | _ => 1

def sizeItems : List Json → Nat
  | [] => 0
  | item :: rest => size item + sizeItems rest

def sizeMembers : List (String × Json) → Nat
  | [] => 0
  | (_, value) :: rest => size value + sizeMembers rest

end

end Json

end SchemaTypes
