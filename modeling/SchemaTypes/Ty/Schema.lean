import SchemaTypes.Ty.Basic

/-!
The schema of a compiled type. It is self-contained: it holds no reference and no definitions, and
a field's optionality stands in the `required` list of its record.
-/
namespace SchemaTypes

namespace Leaf

def schema : Leaf → Json
  | .string => .obj [("type", .str "string")]
  | .uri => .obj [("type", .str "string"), ("format", .str "iri")]
  | .number => .obj [("type", .str "number")]
  | .literal value => .obj [("type", .str "string"), ("const", .str value)]

end Leaf

namespace Members

/-- Inserts the values that are there, from left to right. -/
def insertSome (members : Members) (pairs : List (String × Option Json)) : Members :=
  pairs.foldl (fun members (key, value?) =>
    match value? with
    | some value => Keyed.insert members key value
    | none => members) members

end Members

namespace Ty

def isLiteral : Ty → Bool
  | .leaf (.literal _) => true
  | _ => false

end Ty

namespace FieldDefault

def value? : FieldDefault → Option Json
  | .value v => some v
  | _ => none

end FieldDefault

namespace Field

/-- Adds what a field says beyond its type. A literal carries its value already. -/
def annotate (ty : Ty) (default : FieldDefault) (constraints : Constraints)
    (title description : Option String) : Json → Json
  | .obj members =>
    .obj (Members.insertSome members [
      ("title", title.map .str),
      ("description", description.map .str),
      ("minLength", constraints.minLength.map .ofNat),
      ("maxLength", constraints.maxLength.map .ofNat),
      ("enum", constraints.allowed.map .arr),
      ("default", if ty.base.isLiteral then none else default.value?)])
  | schema => schema

end Field

namespace Record

/-- The names of the required fields, unless all fields are required. -/
def requiredList (fields : List Field) : Option Json :=
  if fields.all (·.required) then none
  else some (.arr ((fields.filter (·.required)).map fun field => .str field.name))

end Record

mutual

def Ty.schema : Ty → Json
  | .record record => record.schema
  | .list item => .obj [("type", .str "array"), ("items", item.schema)]
  | .set item =>
    .obj [("type", .str "array"), ("items", item.schema), ("uniqueItems", .bool true)]
  | .oneOf arms => .obj [("oneOf", .arr (Ty.armSchemas arms))]
  | .optional inner => inner.schema
  | .leaf leaf => leaf.schema

def Ty.armSchemas : List Ty → List Json
  | [] => []
  | arm :: rest => arm.schema :: Ty.armSchemas rest

def Record.schema : Record → Json
  | ⟨title, description, fields⟩ =>
    .obj (Members.insertSome [] [
      ("title", title.map .str),
      ("description", description.map .str),
      ("type", some (.str "object")),
      ("properties", some (.obj (Keyed.ofPairs (Record.propertySchemas fields)))),
      ("required", Record.requiredList fields)])

def Record.propertySchemas : List Field → List (String × Json)
  | [] => []
  | field :: rest => (field.name, field.schema) :: Record.propertySchemas rest

def Field.schema : Field → Json
  | ⟨_, ty, _, default, constraints, title, description⟩ =>
    Field.annotate ty default constraints title description ty.schema

end

end SchemaTypes
