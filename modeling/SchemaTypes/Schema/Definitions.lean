import SchemaTypes.Schema.Compile

/-!
Blocks of definitions, and the names they bring into scope.

Every definition of a block is declared before any is compiled, so that they can refer to each other
in any order, and every one is compiled, so that a broken one fails even when nothing refers to it.
A body is compiled with the layers that are visible where it was declared, and its type is kept in
that layer. A name that is asked for while its own body is compiled is a cycle.
-/
namespace SchemaTypes

namespace Definitions

def keywords : List String := ["definitions", "$defs"]

structure Entry where
  keyword : String
  name : String
  node : Json

/-- The reference by which an entry is known within its document. -/
def Entry.reference (entry : Entry) : String :=
  "#" ++ Pointer.text [entry.keyword, entry.name]

/-- The entries of one block. No block, a null and an empty block are the same. -/
def block (members : Members) (keyword : String) : Except Fault (List Entry) :=
  match members.get? keyword with
  | none => .ok []
  | some .null => .ok []
  | some (.obj definitions) => .ok (definitions.map fun (name, node) => ⟨keyword, name, node⟩)
  | some _ => .error (.unsupportedSchema (.keywordNotObject keyword))

def entries (members : Members) : Except Fault (List Entry) :=
  (keywords.mapM (block members)).map List.flatten

def declare (position : Position) (entry : Entry) : Slot :=
  .pending ⟨entry.node, { position with path := position.path ++ [entry.keyword, entry.name] }⟩

/-- The slots that declare all entries; of two entries of one name the later counts. -/
def slots (position : Position) (entries : List Entry) : List (String × Slot) :=
  Keyed.ofPairs (entries.map fun entry => (entry.name, declare position entry))

/-- Compiles a body that is declared in the layer at `level`. The layers inside of it are hidden
meanwhile, and the type is kept in that layer. -/
def demand (compile : NodeCompiler) (level : Nat) (name : String) (definition : Definition) :
    Compile Ty := fun state =>
  let hidden := state.scope.above level
  let visible := (state.scope.upTo level).set level name .compiling
  match Compile.within definition.position (compile definition.node)
      { state with scope := visible } with
  | (.ok ty, after) =>
    (.ok ty, { after with scope := Scope.set (hidden ++ after.scope) level name (.ready ty) })
  | (.error e, after) => (.error e, { after with scope := hidden ++ after.scope })

/-- The type of a slot, compiled now if nobody has asked for it before. -/
def settle (compile : NodeCompiler) (name reference : String) (binding : Scope.Binding) :
    Compile Ty :=
  match binding.slot with
  | .ready ty => pure ty
  | .compiling => Compile.fail (.cyclicReference reference)
  | .pending definition => demand compile binding.level name definition

def resolve (compile : NodeCompiler) (name reference : String) : Compile Ty := do
  match ← Compile.read (·.scope.find? name) with
  | none => Compile.fail (.unresolvedReference reference)
  | some binding => do
    let ty ← settle compile name reference binding
    Compile.note fun _ => .resolved binding.block name ty
    pure ty

def resolveAll (compile : NodeCompiler) : List Entry → Compile Unit
  | [] => pure ()
  | entry :: rest => do
    let _ ← resolve compile entry.name entry.reference
    resolveAll compile rest

def within {α : Type} (compile : NodeCompiler) (members : Members) (body : Compile α) :
    Compile α := do
  let entries ← Compile.ofExcept (entries members)
  if entries.isEmpty then body
  else do
    Compile.note (.harvesting entries.length ·)
    let position ← Compile.read (·.position)
    Compile.withLayer (slots position entries) do
      resolveAll compile entries
      body

end Definitions

end SchemaTypes
