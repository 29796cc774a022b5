import SchemaTypes.Files.Error
import SchemaTypes.Json.Fault
import SchemaTypes.Schema.Position
import SchemaTypes.Ty.Merge

/-!
Every way in which loading a document or compiling a schema can fail, and the message for each.
-/
namespace SchemaTypes

inductive LoadError where
  | file (path : String) (reason : FileError)
  | notBundled (location : String)
  | unreachable (url : String)
  | malformed (location : String) (reason : Json.ReadError)
  deriving Repr

/-- The reason for a failure, as it follows the failure's own message in a chain. -/
def LoadError.reason : LoadError → String
  | .file _ reason => reason.text
  | .notBundled _ => "no such bundled document"
  | .unreachable _ => "no network"
  | .malformed _ reason => reason.message

def LoadError.message : LoadError → String
  | .file path reason => "failed to read schema file " ++ path ++ ": " ++ reason.text
  | .notBundled location =>
    "failed to read schema file " ++ location ++ ": no such bundled document"
  | .unreachable url => "failed to fetch schema from " ++ url ++ ": no network"
  | .malformed location reason => "invalid JSON in " ++ location ++ ": " ++ reason.message

inductive Unsupported where
  | nodeNotObject
  | documentNotObject
  | referenceNotText
  | keywordNotObject (keyword : String)
  | keywordNotArray (keyword : String)
  | memberNotRecord (index : Nat)
  | noMembers
  | requiredNotNames
  | lengthNotNatural (keyword : String)
  | typeNotName
  | formatNotText
  | noType
  deriving DecidableEq, Repr

def Unsupported.text : Unsupported → String
  | .nodeNotObject => "schema node must be an object"
  | .documentNotObject => "schema document must be an object"
  | .referenceNotText => "`$ref` must be a string"
  | .keywordNotObject keyword => "`" ++ keyword ++ "` must be an object"
  | .keywordNotArray keyword => "`" ++ keyword ++ "` must be an array"
  | .memberNotRecord index =>
    "allOf member " ++ toString index ++ " does not compile to an object"
  | .noMembers => "allOf has no members"
  | .requiredNotNames => "`required` must list property names"
  | .lengthNotNatural keyword => "`" ++ keyword ++ "` must be a non-negative integer"
  | .typeNotName => "`type` must be a single type name"
  | .formatNotText => "`format` must be a string"
  | .noType => "node has no `type`, `properties`, `$ref` or combinator"

/-- Every way a compilation fails. `exhausted` would mean that the bound on its depth was too
low. -/
inductive CompileError where
  | unresolvedReference (reference : String) (position : Position)
  | cyclicReference (reference : String) (position : Position)
  | unsupportedSchema (position : Position) (reason : Unsupported)
  | unsupportedFormat (type format : String) (position : Position)
  | notImplemented (keyword : String) (position : Position)
  | missingField (field : String) (position : Position)
  | fieldConflict (conflict : Conflict) (position : Position)
  | load (error : LoadError)
  | exhausted

inductive Fault where
  | unresolvedReference (reference : String)
  | cyclicReference (reference : String)
  | unsupportedSchema (reason : Unsupported)
  | unsupportedFormat (type format : String)
  | notImplemented (keyword : String)
  | missingField (field : String)
  | fieldConflict (conflict : Conflict)

/-- The error for a fault of the node at a position. -/
def Fault.error (position : Position) : Fault → CompileError
  | .unresolvedReference reference => .unresolvedReference reference position
  | .cyclicReference reference => .cyclicReference reference position
  | .unsupportedSchema reason => .unsupportedSchema position reason
  | .unsupportedFormat type format => .unsupportedFormat type format position
  | .notImplemented keyword => .notImplemented keyword position
  | .missingField field => .missingField field position
  | .fieldConflict conflict => .fieldConflict conflict position

def CompileError.message : CompileError → String
  | .unresolvedReference reference position =>
    "unresolved reference `" ++ reference ++ "` at " ++ position.text
  | .cyclicReference reference position =>
    "cyclic reference `" ++ reference ++ "` at " ++ position.text
  | .unsupportedSchema position reason =>
    "unsupported schema at " ++ position.text ++ ": " ++ reason.text
  | .unsupportedFormat type format position =>
    "unsupported type/format pair (" ++ type ++ ", " ++ format ++ ") at " ++ position.text
  | .notImplemented keyword position =>
    "`" ++ keyword ++ "` is not implemented (at " ++ position.text ++ ")"
  | .missingField field position => "missing field `" ++ field ++ "` at " ++ position.text
  | .fieldConflict conflict position =>
    "conflicting field `" ++ conflict.field ++ "` in allOf at " ++ position.text ++ ": "
      ++ conflict.reason.text
  | .load error => error.message
  | .exhausted => "schema nested too deep"

end SchemaTypes
