import SchemaTypes.Schema.Definitions
import SchemaTypes.Schema.Loader

/-!
References: to a definition in scope, or to another document or a part of it.
-/
namespace SchemaTypes

namespace Reference

/-- What follows `keyword` and the slashes around it, when it is one segment that is not empty. -/
def nameUnder? (keyword fragment : String) : Option String :=
  match Pointer.split fragment.toList with
  | [[], first, name] =>
    if String.ofList first = keyword ∧ name ≠ [] then
      some (String.ofList (Pointer.unescapeChars name))
    else none
  | _ => none

def definitionName? (fragment : String) : Option String :=
  Definitions.keywords.findSome? (nameUnder? · fragment)

def split (reference : String) : String × String :=
  let chars := reference.toList
  let behind := (chars.dropWhile (· != '#')).drop 1
  (String.ofList (chars.takeWhile (· != '#')), String.ofList behind)

def localFragment? (reference : String) : Option String :=
  match reference.toList with
  | '#' :: fragment => some (String.ofList fragment)
  | _ => none

/-- Compiles a document, or the part of it that a fragment names, with the document's own
definitions in scope. -/
def document (compile : NodeCompiler) (reference fragment : String) (document : Json) :
    Compile Ty :=
  if fragment.isEmpty then compile document
  else
    match document with
    | .obj members =>
      Definitions.within compile members
        (match definitionName? fragment with
        | some name => Definitions.resolve compile name reference
        | none =>
          match document.pointer? fragment with
          | some node => do
            let position ← Compile.read (·.position)
            Compile.within { position with path := Pointer.segments fragment } (compile node)
          | none => Compile.fail (.unresolvedReference reference))
    | _ => Compile.fail (.unsupportedSchema .documentNotObject)

def load (loader : Loader) (location : Location) : Compile Json := do
  Compile.note fun _ => .opening location loader.announces
  match loader.load location with
  | .ok document => pure document
  | .error error => Compile.raise (.load error)

/-- Opens the document that a reference names. A document that is open already is a cycle. -/
def external (loader : Loader) (compile : NodeCompiler) (reference : String) : Compile Ty := do
  let (href, fragment) := split reference
  let base ← Compile.read (·.position.document)
  let location := Location.resolve href base
  if ← Compile.read (·.opened.contains location.key) then
    Compile.fail (.cyclicReference reference)
  else do
    let loaded ← load loader location
    Compile.opening location
      (Compile.within ⟨some location, []⟩ (document compile reference fragment loaded))

def resolve (loader : Loader) (compile : NodeCompiler) (reference : String) : Compile Ty := do
  Compile.note (.resolving reference ·)
  match localFragment? reference with
  | some fragment =>
    match definitionName? fragment with
    | some name => Definitions.resolve compile name reference
    | none => Compile.fail (.unresolvedReference reference)
  | none => external loader compile reference

end Reference

end SchemaTypes
