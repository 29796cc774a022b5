import SchemaTypes.Schema.Position
import SchemaTypes.Ty.Basic

/-!
Names and what they stand for. A registry holds compiled types. A scope holds one layer for each
block of definitions around the current node, with the registry as its outermost layer; a definition
is declared with its body first and compiled when it is asked for.
-/
namespace SchemaTypes

structure Registry where
  entries : List (String × Ty)

namespace Registry

def empty : Registry := ⟨[]⟩

def insert (registry : Registry) (name : String) (ty : Ty) : Registry :=
  ⟨Keyed.insert registry.entries name ty⟩

def ofPairs (pairs : List (String × Ty)) : Registry := ⟨Keyed.ofPairs pairs⟩

def get? (registry : Registry) (name : String) : Option Ty := registry.entries.lookup name

def contains (registry : Registry) (name : String) : Bool := (registry.get? name).isSome

def size (registry : Registry) : Nat := registry.entries.length

def isEmpty (registry : Registry) : Bool := registry.entries.isEmpty

def names (registry : Registry) : List String := Keyed.keys registry.entries

end Registry

structure Definition where
  node : Json
  position : Position

/-- What a name stands for: a type, a body that nobody has asked for yet, or a body that is being
compiled. -/
inductive Slot where
  | ready (ty : Ty)
  | pending (definition : Definition)
  | compiling

/-- The slots of one block. No other block of the same compilation has its number. -/
structure Layer where
  number : Nat
  slots : List (String × Slot)

namespace Layer

def find? (layer : Layer) (name : String) : Option Slot := layer.slots.lookup name

def set (layer : Layer) (name : String) (slot : Slot) : Layer :=
  { layer with slots := Keyed.insert layer.slots name slot }

end Layer

/-- The layers in effect, innermost first. The level of a layer is the number of layers outside of
it. -/
abbrev Scope := List Layer

namespace Scope

def ofRegistry (registry : Registry) : Scope :=
  [⟨0, registry.entries.map fun (name, ty) => (name, .ready ty)⟩]

structure Binding where
  level : Nat
  block : Nat
  slot : Slot

/-- The innermost slot of a name. -/
def find? : Scope → String → Option Binding
  | [], _ => none
  | layer :: outer, name =>
    match layer.find? name with
    | some slot => some ⟨outer.length, layer.number, slot⟩
    | none => find? outer name

def set : Scope → Nat → String → Slot → Scope
  | [], _, _, _ => []
  | layer :: outer, level, name, slot =>
    if outer.length = level then layer.set name slot :: outer
    else layer :: set outer level name slot

/-- The layers inside of the one at a level. -/
def above (scope : Scope) (level : Nat) : Scope := scope.take (scope.length - (level + 1))

/-- The layer at a level, and those outside of it. -/
def upTo (scope : Scope) (level : Nat) : Scope := scope.drop (scope.length - (level + 1))

end Scope

end SchemaTypes
