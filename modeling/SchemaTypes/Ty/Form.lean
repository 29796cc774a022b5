import SchemaTypes.Ty.Basic

/-!
The JSON form of a compiled type. Each alternative carries its tag beside its parts, and an absent
part is null.
-/
namespace SchemaTypes

namespace Leaf

def toJson : Leaf → Json
  | .string => .obj [("leaf", .str "string")]
  | .uri => .obj [("leaf", .str "uri")]
  | .number => .obj [("leaf", .str "number")]
  | .literal value => .obj [("leaf", .str "literal"), ("value", .str value)]

end Leaf

namespace FieldDefault

def toJson : FieldDefault → Json
  | .required => .obj [("default", .str "required")]
  | .noValue => .obj [("default", .str "no_value")]
  | .value v => .obj [("default", .str "value"), ("value", v)]

end FieldDefault

namespace Constraints

def toJson (c : Constraints) : Json :=
  .obj [
    ("min_length", Json.ofOption Json.ofNat c.minLength),
    ("max_length", Json.ofOption Json.ofNat c.maxLength),
    ("allowed", Json.ofOption Json.arr c.allowed)]

end Constraints

mutual

def Ty.toJson : Ty → Json
  | .record record => .obj (("kind", .str "record") :: record.members)
  | .list item => .obj [("kind", .str "list"), ("item", item.toJson)]
  | .set item => .obj [("kind", .str "set"), ("item", item.toJson)]
  | .oneOf arms => .obj [("kind", .str "one_of"), ("arms", .arr (Ty.armsToJson arms))]
  | .optional inner => .obj [("kind", .str "optional"), ("inner", inner.toJson)]
  | .leaf leaf => .obj [("kind", .str "leaf"), ("leaf", leaf.toJson)]

def Ty.armsToJson : List Ty → List Json
  | [] => []
  | arm :: rest => arm.toJson :: Ty.armsToJson rest

/-- The members of a record's form, without a tag. -/
def Record.members : Record → Members
  | ⟨title, description, fields⟩ => [
    ("title", Json.ofOption Json.str title),
    ("description", Json.ofOption Json.str description),
    ("fields", .arr (Record.fieldsToJson fields))]

def Record.fieldsToJson : List Field → List Json
  | [] => []
  | field :: rest => field.toJson :: Record.fieldsToJson rest

def Field.toJson : Field → Json
  | ⟨name, ty, required, default, constraints, title, description⟩ => .obj [
    ("name", .str name),
    ("ty", ty.toJson),
    ("required", .bool required),
    ("default", default.toJson),
    ("constraints", constraints.toJson),
    ("title", Json.ofOption Json.str title),
    ("description", Json.ofOption Json.str description)]

end

def Record.toJson (record : Record) : Json := .obj record.members

end SchemaTypes
