import SchemaTypes.Schema.Plan

/-!
Object nodes: one field for each property, in declaration order.

Without a `required` list every field is required; with one, the fields that it leaves out become
optional. What limits a field depends on the type of its property before that wrapping.
-/
namespace SchemaTypes

namespace Object

def text? (value : Option Json) : Option String := value.bind Json.string?

def properties (members : Members) : Except Fault Members :=
  match members.get? "properties" with
  | none => .ok []
  | some (.obj properties) => .ok properties
  | some _ => .error (.unsupportedSchema (.keywordNotObject "properties"))

/-- The names listed as required, if there is a list. -/
def requiredNames (members : Members) : Except Fault (Option (List String)) :=
  match members.get? "required" with
  | none => .ok none
  | some (.arr names) =>
    match names.mapM Json.string? with
    | some names => .ok (some names)
    | none => .error (.unsupportedSchema .requiredNotNames)
  | some _ => .error (.unsupportedSchema (.keywordNotArray "required"))

/-- Keywords that limit numbers, which a field does not carry. -/
def numericBounds : List String :=
  ["minimum", "maximum", "exclusiveMinimum", "exclusiveMaximum", "multipleOf"]

def length (property : Json) (keyword : String) : Except Fault (Option Nat) :=
  match property.get? keyword with
  | none => .ok none
  | some value =>
    match value.nat? with
    | some n => .ok (some n)
    | none => .error (.unsupportedSchema (.lengthNotNatural keyword))

def allowedValues (property : Json) : Except Fault (Option (List Json)) :=
  match property.get? "enum" with
  | none => .ok none
  | some (.arr values) => .ok (some values)
  | some _ => .error (.unsupportedSchema (.keywordNotArray "enum"))

/-- The limit that a keyword sets on a length; only text has one. -/
def limit (base : Ty) (property : Json) (keyword : String) : Except Fault (Option Nat) :=
  if base.leaf?.any Leaf.isStringKind then length property keyword else .ok none

def constraints (property : Json) (base : Ty) : Except Fault Constraints := do
  let minLength ← limit base property "minLength"
  let maxLength ← limit base property "maxLength"
  let allowed ← allowedValues property
  .ok ⟨minLength, maxLength, allowed⟩

/-- Notes the bounds of a number that its field does not carry. -/
def noteBounds (property : Json) : List String → Plan Unit
  | [] => pure ()
  | keyword :: rest => do
    if (property.get? keyword).isSome then Plan.note (.bound keyword)
    noteBounds property rest

/-- The field of a property whose type is known. -/
def fieldOf (key : String) (property : Json) (required : Bool) (base : Ty)
    (constraints : Constraints) : Field where
  name := key
  ty := if required then base else base.wrap
  required := required
  default :=
    match property.get? "const" with
    | some constant => .value constant
    | none => if required then .required else .noValue
  constraints := constraints
  title := text? (property.get? "title")
  description := text? (property.get? "description")

def isRequired (required : Option (List String)) (key : String) : Bool :=
  match required with
  | none => true
  | some names => names.contains key

def field (required : Option (List String)) (key : String) (property : Json) : Plan Field := do
  let base ← Plan.visit property
  if base.leaf? = some .number then noteBounds property numericBounds
  let constraints ← Plan.ofExcept (constraints property base)
  pure (fieldOf key property (isRequired required key) base constraints)

def fields (required : Option (List String)) : Members → Plan (List Field)
  | [] => pure []
  | (key, property) :: rest => do
    let field ← Plan.under ["properties", key] (field required key property)
    let fields ← fields required rest
    pure (field :: fields)

/-- The record of an object node. -/
def record (members : Members) : Plan Record := do
  let properties ← Plan.ofExcept (properties members)
  let required ← Plan.ofExcept (requiredNames members)
  let fields ← fields required properties
  pure ⟨text? (members.get? "title"), text? (members.get? "description"), fields⟩

end Object

end SchemaTypes
