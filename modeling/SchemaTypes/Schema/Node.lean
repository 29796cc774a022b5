import SchemaTypes.Schema.Object
import SchemaTypes.Schema.Reference
import SchemaTypes.Schema.Scalar

/-!
One step of compilation: the type of a node, given a compiler for the nodes below it.

A reference stands for what it names, and nothing beside it counts. Otherwise the node's definitions
come into scope, and the first of these applies: alternatives, members that hold together, an
object, an array, a scalar.
-/
namespace SchemaTypes

namespace Node

/-- The members of a combinator. No list, a null and an empty list are the same. -/
def combinator (members : Members) (keyword : String) : Except Fault (Option (List Json)) :=
  match members.get? keyword with
  | none => .ok none
  | some .null => .ok none
  | some (.arr []) => .ok none
  | some (.arr items) => .ok (some items)
  | some _ => .error (.unsupportedSchema (.keywordNotArray keyword))

/-- The types of alternatives, numbered from `index` on. -/
def arms (index : Nat) : List Json → Plan (List Ty)
  | [] => pure []
  | alternative :: rest => do
    let arm ← Plan.under ["oneOf", toString index] (Plan.visit alternative)
    let arms ← arms (index + 1) rest
    pure (arm :: arms)

/-- The records of members that hold together, numbered from `index` on. -/
def memberRecords (index : Nat) : List Json → Plan (List Record)
  | [] => pure []
  | member :: rest => do
    let ty ← Plan.under ["allOf", toString index] (Plan.visit member)
    match ty with
    | .record record => do
      let records ← memberRecords (index + 1) rest
      pure (record :: records)
    | _ => Plan.unsupported (.memberNotRecord index)

def merged : List Record → Except Fault Record
  | [] => .error (.unsupportedSchema .noMembers)
  | first :: rest => (Record.mergeAll first rest).mapError .fieldConflict

def array (members : Members) : Plan Ty :=
  match members.get? "items" with
  | none => Plan.fail (.missingField "items")
  | some items => do
    let item ← Plan.under ["items"] (Plan.visit items)
    pure (Ty.collection item ((members.get? "uniqueItems").bind Json.bool? |>.getD false))

/-- A node without a type is an object when it has properties. -/
inductive Shape where
  | object
  | array
  | scalar
  deriving DecidableEq, Repr

def shape (members : Members) : Shape :=
  match members.get? "type" with
  | none =>
    match members.get? "properties" with
    | some (.obj (_ :: _)) => .object
    | _ => .scalar
  | some (.str "object") => .object
  | some (.str "array") => .array
  | some _ => .scalar

def body (members : Members) : Plan Ty := do
  match ← Plan.ofExcept (combinator members "oneOf") with
  | some alternatives => do
    let arms ← arms 0 alternatives
    pure (.oneOf arms)
  | none =>
  match ← Plan.ofExcept (combinator members "anyOf") with
  | some _ => Plan.fail (.notImplemented "anyOf")
  | none =>
  match ← Plan.ofExcept (combinator members "allOf") with
  | some all => do
    let records ← memberRecords 0 all
    let record ← Plan.ofExcept (merged records)
    pure (.record record)
  | none =>
  match shape members with
  | .object => do
    let record ← Object.record members
    pure (.record record)
  | .array => array members
  | .scalar => do
    let leaf ← Plan.ofExcept (Scalar.leaf members)
    pure (.leaf leaf)

def ignoredKeywords : List String := ["if", "then", "else", "not", "patternProperties"]

def noteIgnored (members : Members) : List String → Plan Unit
  | [] => pure ()
  | keyword :: rest => do
    if members.contains keyword then Plan.note (.keyword keyword)
    noteIgnored members rest

def object (loader : Loader) (compile : NodeCompiler) (members : Members) : Compile Ty :=
  match members.get? "$ref" with
  | some (.str reference) => Reference.resolve loader compile reference
  | some _ => Compile.fail (.unsupportedSchema .referenceNotText)
  | none => do
    (noteIgnored members ignoredKeywords).run compile
    Definitions.within compile members ((body members).run compile)

def step (loader : Loader) (compile : NodeCompiler) (node : Json) : Compile Ty := do
  Compile.note (.visited · node)
  match node with
  | .obj members => do
    let ty ← object loader compile members
    Compile.note (.compiled · node ty)
    pure ty
  | _ => Compile.fail (.unsupportedSchema .nodeNotObject)

/-- Compiles nodes that are nested at most `depth` deep, references followed. -/
def compile (loader : Loader) : Nat → NodeCompiler
  | 0 => fun _ => Compile.raise .exhausted
  | depth + 1 => step loader (compile loader depth)

end Node

end SchemaTypes
