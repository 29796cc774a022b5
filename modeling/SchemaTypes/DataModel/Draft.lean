import SchemaTypes.DataModel.Item
import SchemaTypes.DataModel.Name
import SchemaTypes.Ty.Basic

/-!
Building a data model from compiled types.

Every record and union becomes an item of its own, named after the field that holds it. A name is
taken before the parts of its item are written, and an item is written after its parts, so that it
stands behind everything it refers to.
-/
namespace SchemaTypes

namespace DataModel

structure Draft where
  items : List Item
  taken : List String

namespace Draft

def empty : Draft := ⟨[], []⟩

def claim (hint : String) : StateM Draft String := fun draft =>
  let name := nextFree draft.taken (itemName hint) ""
  (name, { draft with taken := name :: draft.taken })

def write (item : Item) : StateM Draft Unit := fun draft =>
  ((), { draft with items := draft.items ++ [item] })

end Draft

end DataModel

open DataModel

/-- Types that can be elements of an ordered set: no numbers, records or unions at any depth. -/
def Ty.isOrderable : Ty → Bool
  | .leaf l => l != .number
  | .list item => item.isOrderable
  | .set item => item.isOrderable
  | .optional inner => inner.isOrderable
  | .record _ => false
  | .oneOf _ => false

def Ty.leafNote : Ty → Option LeafNote
  | .leaf .uri => some .uri
  | .leaf (.literal value) => some (.literal value)
  | _ => none

def Leaf.typeExpr : Leaf → TypeExpr
  | .number => .number
  | _ => .text

/-- The source form of a field once its identifier and its type are written. -/
def Field.item (field : Field) (ident : String) (type : TypeExpr) : FieldItem where
  ident := ident
  type := type
  title := field.title
  description := field.description
  note := field.ty.base.leafNote
  minLength := field.constraints.minLength
  maxLength := field.constraints.maxLength
  rename := if ident = field.name then none else some field.name
  optional := field.ty.isOptional

mutual

/-- Writes the items that a type needs; `hint` names the outermost of them. -/
def Ty.typeExpr : Ty → String → StateM Draft TypeExpr
  | .record record, hint => do
    let name ← Draft.claim hint
    record.writeItem name
    pure (.named name)
  | .oneOf arms, hint => do
    let name ← Draft.claim hint
    let arms ← Ty.armExprs name 0 arms
    Draft.write (.union name arms)
    pure (.named name)
  | .list item, hint => do
    let item ← item.typeExpr hint
    pure (.list item)
  | .set item, hint => do
    let orderable := item.isOrderable
    let item ← item.typeExpr hint
    pure (if orderable then .orderedSet item else .list item)
  | .optional inner, hint => do
    let inner ← inner.typeExpr hint
    pure (.optional inner)
  | .leaf l, _ => pure l.typeExpr

/-- The arms of the union `name`, numbered from `index` on. -/
def Ty.armExprs (name : String) (index : Nat) : List Ty → StateM Draft (List TypeExpr)
  | [] => pure []
  | arm :: rest => do
    let expr ← arm.typeExpr (name ++ "V" ++ toString index)
    let exprs ← Ty.armExprs name (index + 1) rest
    pure (expr :: exprs)

def Record.writeItem : Record → String → StateM Draft Unit
  | ⟨title, description, fields⟩, name => do
    let fields ← Record.fieldItems [] fields
    Draft.write (.record name title description fields)

/-- The fields of one record, whose identifiers are kept apart. -/
def Record.fieldItems (idents : List String) : List Field → StateM Draft (List FieldItem)
  | [] => pure []
  | field :: rest => do
    let ident := nextFree idents (fieldIdent field.name) "_"
    let type ← field.typeExpr
    let items ← Record.fieldItems (ident :: idents) rest
    pure (field.item ident type :: items)

def Field.typeExpr : Field → StateM Draft TypeExpr
  | ⟨name, ty, _, _, _, _, _⟩ => ty.typeExpr name

end

namespace DataModel

namespace Draft

/-- Adds a type as an item called `root`, or the next free variant of that name. -/
def emit (ty : Ty) (root : String) : StateM Draft Unit := do
  let name ← claim root
  match ty with
  | .record record => record.writeItem name
  | .oneOf arms => do
    let arms ← Ty.armExprs name 0 arms
    write (.union name arms)
  | other => do
    let type ← other.typeExpr name
    write (.alias name type)

def source (draft : Draft) : String := header ++ String.join (draft.items.map Item.source)

end Draft

def source (ty : Ty) (root : String) : String := ((Draft.emit ty root).run .empty).2.source

end DataModel

end SchemaTypes
