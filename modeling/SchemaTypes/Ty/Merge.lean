import SchemaTypes.Ty.Notation

/-!
Collections, and the merging of records that describe one value together.

Merging joins fields by name. A field on one side only is carried over; a field on both sides must
have one base type, meets both sides' constraints and is required if either side requires it.
-/
namespace SchemaTypes

inductive Conflict.Reason where
  | incompatibleTypes (left right : Ty)
  | differentDefaults (left right : Json)
  | lengthWindow (min max : Nat)
  | noCommonValue

structure Conflict where
  field : String
  reason : Conflict.Reason

def Conflict.Reason.text : Conflict.Reason → String
  | .incompatibleTypes left right =>
    "incompatible types " ++ Notation.ofTy left ++ " and " ++ Notation.ofTy right
  | .differentDefaults left right =>
    "different defaults " ++ left.compact ++ " and " ++ right.compact
  | .lengthWindow min max =>
    "minLength " ++ toString min ++ " exceeds maxLength " ++ toString max
  | .noCommonValue => "enum values have no overlap"

namespace Ty

def collection (item : Ty) (unique : Bool) : Ty := if unique then .set item else .list item

end Ty

namespace Constraints

/-- The larger of two lower limits; an absent one limits nothing. -/
def mergeMin : Option Nat → Option Nat → Option Nat
  | some a, some b => some (max a b)
  | a, b => a.or b

/-- The smaller of two upper limits; an absent one limits nothing. -/
def mergeMax : Option Nat → Option Nat → Option Nat
  | some a, some b => some (min a b)
  | a, b => a.or b

/-- The values of the left list that the right one holds too. -/
def common (left right : List Json) : List Json :=
  left.filter fun value => right.any value.same

def mergeAllowed : Option (List Json) → Option (List Json) →
    Except Conflict.Reason (Option (List Json))
  | some left, some right =>
    if (common left right).isEmpty then .error .noCommonValue else .ok (some (common left right))
  | left, right => .ok (left.or right)

def checkWindow : Option Nat → Option Nat → Except Conflict.Reason Unit
  | some min, some max => if max < min then .error (.lengthWindow min max) else .ok ()
  | _, _ => .ok ()

def merge (a b : Constraints) : Except Conflict.Reason Constraints := do
  let minLength := mergeMin a.minLength b.minLength
  let maxLength := mergeMax a.maxLength b.maxLength
  checkWindow minLength maxLength
  let allowed ← mergeAllowed a.allowed b.allowed
  .ok ⟨minLength, maxLength, allowed⟩

end Constraints

namespace FieldDefault

/-- The first value given, if the two sides do not give different ones. -/
def merge (required : Bool) : FieldDefault → FieldDefault → Except Conflict.Reason FieldDefault
  | .value a, .value b => if a.same b then .ok (.value a) else .error (.differentDefaults a b)
  | .value a, _ => .ok (.value a)
  | _, .value b => .ok (.value b)
  | _, _ => .ok (if required then .required else .noValue)

end FieldDefault

namespace Field

def merge (a b : Field) : Except Conflict.Reason Field := do
  if !a.ty.base.same b.ty.base then .error (.incompatibleTypes a.ty.base b.ty.base)
  let required := a.required || b.required
  let default ← FieldDefault.merge required a.default b.default
  let constraints ← a.constraints.merge b.constraints
  .ok {
    name := a.name
    ty := if required then a.ty.base else a.ty.base.wrap
    required := required
    default := default
    constraints := constraints
    title := a.title.or b.title
    description := a.description.or b.description }

end Field

namespace Record

/-- Merges one field into the first of its name, or adds it at the end. -/
def mergeField : List Field → Field → Except Conflict (List Field)
  | [], next => .ok [next]
  | field :: rest, next =>
    if field.name = next.name then
      match field.merge next with
      | .ok merged => .ok (merged :: rest)
      | .error reason => .error ⟨field.name, reason⟩
    else
      match mergeField rest next with
      | .ok rest => .ok (field :: rest)
      | .error conflict => .error conflict

/-- The record that both describe, its fields in the order of first appearance. -/
def merge (a b : Record) : Except Conflict Record := do
  let fields ← b.fields.foldlM mergeField a.fields
  .ok ⟨a.title.or b.title, a.description.or b.description, fields⟩

def mergeAll (first : Record) (rest : List Record) : Except Conflict Record :=
  rest.foldlM merge first

end Record

end SchemaTypes
