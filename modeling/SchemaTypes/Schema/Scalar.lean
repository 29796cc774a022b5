import SchemaTypes.Json.Printer
import SchemaTypes.Schema.Failure

/-!
Scalar nodes: the leaf for a type name, a format and a constant.
-/
namespace SchemaTypes

namespace Leaf

def defaultFormat : String := "default"

/-- The pairs of type and format that have a leaf. -/
def formats : List ((String × String) × Leaf) := [
  (("string", defaultFormat), .string),
  (("string", "iri"), .uri),
  (("string", "iri-reference"), .uri),
  (("number", defaultFormat), .number)]

def ofFormat? (type format : String) : Option Leaf := formats.lookup (type, format)

end Leaf

namespace Scalar

/-- The text that a constant pins a string to; other constants count by their JSON text. -/
def literalText : Json → String
  | .str s => s
  | other => other.compact

def typeName (members : Members) : Except Fault String :=
  match members.get? "type" with
  | some (.str type) => .ok type
  | some _ => .error (.unsupportedSchema .typeNotName)
  | none => .error (.unsupportedSchema .noType)

def formatName (members : Members) : Except Fault String :=
  match members.get? "format" with
  | none => .ok Leaf.defaultFormat
  | some (.str format) => .ok format
  | some _ => .error (.unsupportedSchema .formatNotText)

/-- A constant wins over a format, and only strings can be constant. -/
def leaf (members : Members) : Except Fault Leaf := do
  let type ← typeName members
  match members.get? "const" with
  | some constant =>
    if type = "string" then .ok (.literal (literalText constant))
    else .error (.notImplemented "const")
  | none => do
    let format ← formatName members
    match Leaf.ofFormat? type format with
    | some leaf => .ok leaf
    | none => .error (.unsupportedFormat type format)

end Scalar

end SchemaTypes
