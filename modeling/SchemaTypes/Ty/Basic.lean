import SchemaTypes.Json.Basic

/-!
Compiled types. A type is self-contained: every reference has been replaced by the type it names.
-/
namespace SchemaTypes

inductive Leaf where
  | string
  | uri
  | number
  /-- Text pinned to one constant. -/
  | literal (value : String)
  deriving DecidableEq, Repr, Inhabited

/-- What a field falls back to when an instance leaves it out. -/
inductive FieldDefault where
  /-- The field must be supplied. -/
  | required
  /-- Explicit absence, which differs from a present null. -/
  | noValue
  | value (value : Json)
  deriving Repr, Inhabited

/-- Limits on a field's value; lengths apply to text. -/
structure Constraints where
  minLength : Option Nat
  maxLength : Option Nat
  allowed : Option (List Json)
  deriving Repr, Inhabited

mutual

inductive Ty where
  | record (record : Record)
  /-- An ordered sequence. -/
  | list (item : Ty)
  /-- A sequence without repetitions. -/
  | set (item : Ty)
  /-- Alternatives, to be tried from left to right. -/
  | oneOf (arms : List Ty)
  | optional (inner : Ty)
  | leaf (leaf : Leaf)

/-- Named fields in declaration order. -/
structure Record where
  title : Option String
  description : Option String
  fields : List Field

/-- The type is already wrapped when the field may be absent. -/
structure Field where
  name : String
  ty : Ty
  required : Bool
  default : FieldDefault
  constraints : Constraints
  title : Option String
  description : Option String

end

instance : Inhabited Ty := ⟨.leaf .string⟩

instance : Inhabited Record := ⟨⟨none, none, []⟩⟩

namespace Leaf

/-- Leaves whose length can be limited. -/
def isStringKind : Leaf → Bool
  | .string => true
  | .uri => true
  | _ => false

end Leaf

namespace FieldDefault

def same : FieldDefault → FieldDefault → Bool
  | .required, .required => true
  | .noValue, .noValue => true
  | .value a, .value b => a.same b
  | _, _ => false

end FieldDefault

namespace Constraints

def unlimited : Constraints := ⟨none, none, none⟩

def isEmpty (c : Constraints) : Bool :=
  c.minLength.isNone && c.maxLength.isNone && c.allowed.isNone

def sameAllowed : Option (List Json) → Option (List Json) → Bool
  | none, none => true
  | some as, some bs => Json.sameItems as bs
  | _, _ => false

def same (a b : Constraints) : Bool :=
  a.minLength == b.minLength && a.maxLength == b.maxLength && sameAllowed a.allowed b.allowed

end Constraints

namespace Ty

/-- Wraps a type once: an optional type stays as it is. -/
def wrap : Ty → Ty
  | .optional inner => .optional inner
  | ty => .optional ty

/-- The type with every optional wrapping removed. -/
def base : Ty → Ty
  | .optional inner => base inner
  | ty => ty

def isOptional : Ty → Bool
  | .optional _ => true
  | _ => false

def record? : Ty → Option Record
  | .record r => some r
  | _ => none

def leaf? : Ty → Option Leaf
  | .leaf l => some l
  | _ => none

mutual

/-- Equality of types; the JSON values in them are compared by `Json.same`. -/
def same : Ty → Ty → Bool
  | .record a, .record b => sameRecord a b
  | .list a, .list b => same a b
  | .set a, .set b => same a b
  | .oneOf as, .oneOf bs => sameArms as bs
  | .optional a, .optional b => same a b
  | .leaf a, .leaf b => a == b
  | _, _ => false

def sameArms : List Ty → List Ty → Bool
  | [], [] => true
  | a :: as, b :: bs => same a b && sameArms as bs
  | _, _ => false

def sameRecord : Record → Record → Bool
  | ⟨title, description, fields⟩, other =>
    title == other.title && description == other.description && sameFields fields other.fields

def sameFields : List Field → List Field → Bool
  | [], [] => true
  | a :: as, b :: bs => sameField a b && sameFields as bs
  | _, _ => false

def sameField : Field → Field → Bool
  | ⟨name, ty, required, default, constraints, title, description⟩, other =>
    name == other.name && same ty other.ty && required == other.required
      && default.same other.default && constraints.same other.constraints
      && title == other.title && description == other.description

end

end Ty

namespace Record

def field? (record : Record) (name : String) : Option Field :=
  record.fields.find? (·.name == name)

def fieldNames (record : Record) : List String := record.fields.map (·.name)

end Record

end SchemaTypes
