import SchemaTypes.Ty.Basic
import SchemaTypes.Number.Text
import SchemaTypes.Json.Printer
import SchemaTypes.Text.Quoted

/-!
A one-line notation for types, in which conflicts report them. It names every part and quotes text
with all unprintable characters escaped.
-/
namespace SchemaTypes.Notation

/-- Parts between braces, set off by blanks. -/
def braced (name : String) (parts : List (String × String)) : String :=
  name ++ " \x7b " ++ String.intercalate ", " (parts.map fun (label, text) => label ++ ": " ++ text)
    ++ " \x7d"

def sequence (items : List String) : String := "[" ++ String.intercalate ", " items ++ "]"

def wrapped (name text : String) : String := name ++ "(" ++ text ++ ")"

def ofOption {α : Type} (notate : α → String) : Option α → String
  | none => "None"
  | some value => wrapped "Some" (notate value)

mutual

def ofJson : Json → String
  | .null => "Null"
  | .bool b => wrapped "Bool" (Json.boolText b)
  | .num n => wrapped "Number" n.text
  | .str s => wrapped "String" (Text.quote s)
  | .arr items => "Array " ++ sequence (ofItems items)
  | .obj members => "Object \x7b" ++ String.intercalate ", " (ofMembers members) ++ "\x7d"

def ofItems : List Json → List String
  | [] => []
  | value :: rest => ofJson value :: ofItems rest

def ofMembers : List (String × Json) → List String
  | [] => []
  | (key, value) :: rest => (Text.quote key ++ ": " ++ ofJson value) :: ofMembers rest

end

def ofLeaf : Leaf → String
  | .string => "String"
  | .uri => "Uri"
  | .number => "Number"
  | .literal value => wrapped "Literal" (Text.quote value)

def ofDefault : FieldDefault → String
  | .required => "Required"
  | .noValue => "NoValue"
  | .value value => wrapped "Value" (ofJson value)

def ofConstraints (c : Constraints) : String :=
  braced "Constraints" [
    ("min_length", ofOption toString c.minLength),
    ("max_length", ofOption toString c.maxLength),
    ("allowed", ofOption (fun values => sequence (ofItems values)) c.allowed)]

mutual

def ofTy : Ty → String
  | .record record => wrapped "Record" (ofRecord record)
  | .list item => braced "List" [("item", ofTy item)]
  | .set item => braced "Set" [("item", ofTy item)]
  | .oneOf arms => braced "OneOf" [("arms", sequence (ofArms arms))]
  | .optional inner => braced "Optional" [("inner", ofTy inner)]
  | .leaf leaf => braced "Leaf" [("leaf", ofLeaf leaf)]

def ofArms : List Ty → List String
  | [] => []
  | arm :: rest => ofTy arm :: ofArms rest

def ofRecord : Record → String
  | ⟨title, description, fields⟩ => braced "Record" [
    ("title", ofOption Text.quote title),
    ("description", ofOption Text.quote description),
    ("fields", sequence (ofFields fields))]

def ofFields : List Field → List String
  | [] => []
  | field :: rest => ofField field :: ofFields rest

def ofField : Field → String
  | ⟨name, ty, required, default, constraints, title, description⟩ => braced "Field" [
    ("name", Text.quote name),
    ("ty", ofTy ty),
    ("required", Json.boolText required),
    ("default", ofDefault default),
    ("constraints", ofConstraints constraints),
    ("title", ofOption Text.quote title),
    ("description", ofOption Text.quote description)]

end

end SchemaTypes.Notation
