import Mathlib.Algebra.GroupWithZero.Nat
import Mathlib.Data.List.Nodup
import Mathlib.Data.List.Perm.Subperm
import Mathlib.Data.List.Range
import SchemaTypes.DataModel.Draft

/-! What a data model consists of. Every record and every union of a type becomes an item of its own,
which stands behind the items of its parts, and every item has a name that no other item has. What is
said of an item here is its signature: its name, and the types in it as they are written. -/
namespace SchemaTypes

namespace DataModel

/-! ## Free names -/

variable {taken : List String} {base separator : String}

theorem numbered_injective : Function.Injective (numbered base separator) := by
  intro n m same
  have digits : Nat.toDigits 10 n = Nat.toDigits 10 m := by
    simpa [numbered] using congrArg String.toList same
  have readsBack : Function.LeftInverse (Nat.ofDigitChars 10 · 0) (Nat.toDigits 10) :=
    fun _ => Nat.ofDigitChars_ten_toDigits
  exact readsBack.injective digits

/-- A search that ends at a name that is taken has met no other. -/
theorem numbered_mem_of_firstFree {bound n : Nat}
    (unfree : firstFree taken base separator bound n ∈ taken) :
    ∀ i ≤ bound, numbered base separator (n + i) ∈ taken := by
  induction bound generalizing n with
  | zero =>
    intro i within
    rw [Nat.le_zero.mp within]
    exact unfree
  | succ bound ih =>
    unfold firstFree at unfree
    split at unfree
    · next first =>
      intro i within
      cases i with
      | zero => exact List.contains_iff_mem.mp first
      | succ i =>
        have later := ih unfree i (by omega)
        rwa [show n + 1 + i = n + (i + 1) by omega] at later
    · next free => exact (free (List.contains_iff_mem.mpr unfree)).elim

/-- There are more numbered names than names that are taken. -/
theorem nextFree_not_mem (taken : List String) (base separator : String) :
    nextFree taken base separator ∉ taken := by
  unfold nextFree
  split
  · -- A search that failed would have tried more names than there are.
    intro unfree
    have numbers : ((List.range (taken.length + 1)).map
        fun i => numbered base separator (2 + i)).Nodup :=
      List.nodup_range.map fun i j same => Nat.add_left_cancel (numbered_injective same)
    have within : ((List.range (taken.length + 1)).map
        fun i => numbered base separator (2 + i)) ⊆ taken := by
      intro name member
      obtain ⟨i, listed, rfl⟩ := List.mem_map.mp member
      have less := List.mem_range.mp listed
      exact numbered_mem_of_firstFree unfree i (by omega)
    have length := (numbers.subperm within).length_le
    rw [List.length_map, List.length_range] at length
    omega
  · next free => exact fun member => free (List.contains_iff_mem.mpr member)

end DataModel

open DataModel

/-! ## What is written for a type -/

/-- Whether a type becomes an item of its own. -/
def Ty.own : Ty → Nat
  | .record _ => 1
  | .oneOf _ => 1
  | _ => 0

mutual

/-- How many records and unions there are in a type, strictly below its root. -/
def Ty.nested : Ty → Nat
  | .record record => record.nested
  | .oneOf arms => Ty.nestedArms arms
  | .list item => item.own + item.nested
  | .set item => item.own + item.nested
  | .optional inner => inner.own + inner.nested
  | .leaf _ => 0

def Ty.nestedArms : List Ty → Nat
  | [] => 0
  | arm :: rest => arm.own + arm.nested + Ty.nestedArms rest

def Record.nested : Record → Nat
  | ⟨_, _, fields⟩ => Record.nestedFields fields

def Record.nestedFields : List Field → Nat
  | [] => 0
  | field :: rest => field.nested + Record.nestedFields rest

def Field.nested : Field → Nat
  | ⟨_, ty, _, _, _, _, _⟩ => ty.own + ty.nested

end

namespace DataModel

/-- A field of a struct: what it is called, its type as it is written, and what its attributes say. -/
structure Declaration where
  ident : String
  type : String
  /-- The name on the wire: the one that an attribute gives, otherwise the identifier. -/
  wireName : String
  /-- The field may be left out on the wire. -/
  omissible : Bool
  deriving DecidableEq, Repr

/-- What an item defines, and the types in it as they are written. -/
inductive Signature where
  | struct (name : String) (fields : List Declaration)
  | enum (name : String) (variants : List String)
  | alias (name type : String)
  deriving DecidableEq, Repr

def Signature.name : Signature → String
  | .struct name _ => name
  | .enum name _ => name
  | .alias name _ => name

def FieldItem.declaration (field : FieldItem) : Declaration where
  ident := field.ident
  type := field.type.source
  wireName := field.rename.getD field.ident
  omissible := field.optional

def Item.signature : Item → Signature
  | .record name _ _ fields => .struct name (fields.map FieldItem.declaration)
  | .union name arms => .enum name (arms.map TypeExpr.source)
  | .alias name type => .alias name type.source

@[simp] theorem Item.name_signature (item : Item) : item.signature.name = item.name := by
  cases item <;> rfl

end DataModel

mutual

/-- The text that a type is written with, and the items that it needs: those of its parts in their
order, and behind them the item that a record or a union becomes itself. The name of that item is the
text for the record or the union. -/
inductive Ty.Writes : Ty → String → List Signature → Prop where
  | text {leaf : Leaf} : leaf ≠ .number → Writes (.leaf leaf) "String" []
  | number : Writes (.leaf .number) "f64" []
  | list {item : Ty} {text : String} {items : List Signature} : Writes item text items →
      Writes (.list item) ("Vec<" ++ text ++ ">") items
  | set {item : Ty} {text : String} {items : List Signature} : Writes item text items →
      Writes (.set item) ((if item.isOrderable then "BTreeSet<" else "Vec<") ++ text ++ ">") items
  | optional {inner : Ty} {text : String} {items : List Signature} : Writes inner text items →
      Writes (.optional inner) ("Option<" ++ text ++ ">") items
  | record {record : Record} {name : String} {fields : List Declaration} {items : List Signature} :
      fields.map Declaration.wireName = record.fields.map Field.name →
      AllWrite (record.fields.map Field.ty) (fields.map Declaration.type) items →
      Writes (.record record) name (items ++ [.struct name fields])
  | oneOf {arms : List Ty} {name : String} {variants : List String} {items : List Signature} :
      AllWrite arms variants items → Writes (.oneOf arms) name (items ++ [.enum name variants])

/-- One text for each of some types, and the items that they need one after the other. -/
inductive Ty.AllWrite : List Ty → List String → List Signature → Prop where
  | nil : AllWrite [] [] []
  | cons {ty : Ty} {rest : List Ty} {text : String} {texts : List String}
      {items others : List Signature} : Writes ty text items → AllWrite rest texts others →
      AllWrite (ty :: rest) (text :: texts) (items ++ others)

end

/-- The items that a type adds under a name of its own: its root is an item in any case, an alias when
it would not become one. -/
inductive Ty.Emits : Ty → List Signature → Prop where
  | item {ty : Ty} {name : String} {items : List Signature} : ty.own = 1 →
      ty.Writes name items → Emits ty items
  | alias {ty : Ty} {name text : String} {items : List Signature} : ty.own = 0 →
      ty.Writes text items → Emits ty (items ++ [.alias name text])

namespace DataModel.Draft

/-- A draft of several types, each under a name. -/
def ofCalls (calls : List (Ty × String)) : Draft :=
  calls.foldl (fun draft call => (Draft.emit call.1 call.2 draft).2) .empty

/-- What is added to a draft has names of its own, which are taken then. -/
structure Adds (before : Draft) (added : List Item) (after : Draft) : Prop where
  items : after.items = before.items ++ added
  kept : before.taken ⊆ after.taken
  taken : added.map Item.name ⊆ after.taken
  fresh : ∀ item ∈ added, item.name ∉ before.taken
  distinct : (added.map Item.name).Nodup

namespace Adds

variable {before middle after : Draft} {items others : List Item}

theorem refl (draft : Draft) : Adds draft [] draft :=
  ⟨by simp, List.Subset.refl _, by simp, by simp, by simp⟩

theorem trans (first : Adds before items middle) (second : Adds middle others after) :
    Adds before (items ++ others) after where
  items := by rw [second.items, first.items, List.append_assoc]
  kept := List.Subset.trans first.kept second.kept
  taken := by
    rw [List.map_append]
    exact List.append_subset.mpr ⟨List.Subset.trans first.taken second.kept, second.taken⟩
  fresh item member taken := by
    rcases List.mem_append.mp member with member | member
    · exact first.fresh item member taken
    · exact second.fresh item member (first.kept taken)
  distinct := by
    rw [List.map_append]
    refine List.nodup_append'.mpr ⟨first.distinct, second.distinct, fun name left right => ?_⟩
    obtain ⟨item, member, rfl⟩ := List.mem_map.mp right
    exact second.fresh item member (first.taken left)

/-- An item whose name was taken before its parts were written. -/
theorem claimed {hint : String} {item : Item} (named : item.name = (claim hint before).1)
    (parts : Adds (claim hint before).2 items middle) :
    Adds before (items ++ [item]) (write item middle).2 := by
  have taken : item.name ∈ (claim hint before).2.taken := named ▸ List.mem_cons_self
  -- The name was taken before the parts were written, so that none of them has it.
  have apart : item.name ∉ items.map Item.name := by
    intro member
    obtain ⟨part, inside, same⟩ := List.mem_map.mp member
    exact parts.fresh part inside (same ▸ taken)
  refine ⟨?_, fun name member => parts.kept (List.mem_cons_of_mem _ member), ?_, ?_, ?_⟩
  · rw [← List.append_assoc]
    exact congrArg (· ++ [item]) parts.items
  · rw [List.map_append]
    exact List.append_subset.mpr
      ⟨parts.taken, List.cons_subset.mpr ⟨parts.kept taken, List.nil_subset _⟩⟩
  · intro part member held
    rcases List.mem_append.mp member with member | member
    · exact parts.fresh part member (List.mem_cons_of_mem _ held)
    · rw [List.mem_singleton.mp member, named] at held
      exact nextFree_not_mem _ _ _ held
  · rw [List.map_append]
    exact List.nodup_append'.mpr ⟨parts.distinct, by simp, by simpa using apart⟩

end Adds

end DataModel.Draft

/-! ## Writing types -/

theorem Leaf.writes (leaf : Leaf) : (Ty.leaf leaf).Writes leaf.typeExpr.source [] := by
  cases leaf with
  | number => exact .number
  | string => exact .text nofun
  | uri => exact .text nofun
  | literal value => exact .text nofun

theorem Field.item_wireName (field : Field) (ident : String) (type : TypeExpr) :
    (field.item ident type).declaration.wireName = field.name := by
  show (if ident = field.name then none else some field.name).getD ident = field.name
  split
  · next same => exact same
  · rfl

theorem Record.fieldItems_wireNames (fields : List Field) (idents : List String) (draft : Draft) :
    ((Record.fieldItems idents fields draft).1.map FieldItem.declaration).map Declaration.wireName =
      fields.map Field.name := by
  induction fields generalizing idents draft with
  | nil => rfl
  | cons field rest ih => exact congrArg₂ List.cons (field.item_wireName _ _) (ih _ _)

mutual

/-- A type is written with the items that it needs. -/
theorem Ty.typeExpr_adds : ∀ (ty : Ty) (hint : String) (draft : Draft), ∃ items,
    draft.Adds items (ty.typeExpr hint draft).2 ∧
      ty.Writes (ty.typeExpr hint draft).1.source (items.map Item.signature)
  | .record ⟨title, description, fields⟩, hint, draft => by
    obtain ⟨items, adds, parts⟩ := Record.fieldItems_adds fields [] (Draft.claim hint draft).2
    refine ⟨_, .claimed rfl adds, ?_⟩
    rw [List.map_append]
    exact .record (Record.fieldItems_wireNames fields [] _) parts
  | .oneOf arms, hint, draft => by
    obtain ⟨items, adds, parts⟩ :=
      Ty.armExprs_adds arms (Draft.claim hint draft).1 0 (Draft.claim hint draft).2
    refine ⟨_, .claimed rfl adds, ?_⟩
    rw [List.map_append]
    exact .oneOf parts
  | .list item, hint, draft => by
    obtain ⟨items, adds, writes⟩ := Ty.typeExpr_adds item hint draft
    exact ⟨items, adds, .list writes⟩
  | .set item, hint, draft => by
    obtain ⟨items, adds, writes⟩ := Ty.typeExpr_adds item hint draft
    refine ⟨items, adds, ?_⟩
    have written := Ty.Writes.set writes
    show Ty.Writes _ (if item.isOrderable then TypeExpr.orderedSet _ else .list _).source _
    split at written
    · next orderable => rwa [if_pos orderable]
    · next unorderable => rwa [if_neg unorderable]
  | .optional inner, hint, draft => by
    obtain ⟨items, adds, writes⟩ := Ty.typeExpr_adds inner hint draft
    exact ⟨items, adds, .optional writes⟩
  | .leaf leaf, _, draft => ⟨[], .refl draft, leaf.writes⟩

theorem Ty.armExprs_adds : ∀ (arms : List Ty) (name : String) (index : Nat) (draft : Draft),
    ∃ items, draft.Adds items (Ty.armExprs name index arms draft).2 ∧
      Ty.AllWrite arms ((Ty.armExprs name index arms draft).1.map TypeExpr.source)
        (items.map Item.signature)
  | [], _, _, draft => ⟨[], .refl draft, .nil⟩
  | arm :: rest, name, index, draft => by
    obtain ⟨items, adds, writes⟩ :=
      Ty.typeExpr_adds arm (name ++ "V" ++ toString index) draft
    obtain ⟨others, adds', parts⟩ := Ty.armExprs_adds rest name (index + 1) _
    refine ⟨items ++ others, adds.trans adds', ?_⟩
    rw [List.map_append]
    exact .cons writes parts

theorem Record.fieldItems_adds : ∀ (fields : List Field) (idents : List String) (draft : Draft),
    ∃ items, draft.Adds items (Record.fieldItems idents fields draft).2 ∧
      Ty.AllWrite (fields.map Field.ty)
        (((Record.fieldItems idents fields draft).1.map FieldItem.declaration).map Declaration.type)
        (items.map Item.signature)
  | [], _, draft => ⟨[], .refl draft, .nil⟩
  | field :: rest, idents, draft => by
    obtain ⟨items, adds, writes⟩ := Field.typeExpr_adds field draft
    obtain ⟨others, adds', parts⟩ := Record.fieldItems_adds rest
      (nextFree idents (fieldIdent field.name) "_" :: idents) _
    refine ⟨items ++ others, adds.trans adds', ?_⟩
    rw [List.map_append]
    exact .cons writes parts

theorem Field.typeExpr_adds : ∀ (field : Field) (draft : Draft), ∃ items,
    draft.Adds items (field.typeExpr draft).2 ∧
      field.ty.Writes (field.typeExpr draft).1.source (items.map Item.signature)
  | ⟨name, ty, _, _, _, _, _⟩, draft => Ty.typeExpr_adds ty name draft

end

namespace DataModel.Draft

/-- What is no item of its own is added behind the items of its parts, as an alias. -/
theorem alias_adds (ty : Ty) (plain : ty.own = 0) (root : String) (draft : Draft) :
    let named := claim root draft
    let written := ty.typeExpr named.1 named.2
    ∃ items, draft.Adds items (write (.alias named.1 written.1) written.2).2 ∧
      ty.Emits (items.map Item.signature) := by
  obtain ⟨items, adds, writes⟩ := Ty.typeExpr_adds ty (claim root draft).1 (claim root draft).2
  refine ⟨_, .claimed rfl adds, ?_⟩
  rw [List.map_append]
  exact .alias plain writes

/-- An emitted record or union is written as it is inside of another type. -/
theorem emit_adds (ty : Ty) (root : String) (draft : Draft) :
    ∃ items, draft.Adds items (emit ty root draft).2 ∧ ty.Emits (items.map Item.signature) := by
  cases ty with
  | record record =>
    obtain ⟨items, adds, writes⟩ := Ty.typeExpr_adds (.record record) root draft
    exact ⟨items, adds, .item rfl writes⟩
  | oneOf arms =>
    obtain ⟨items, adds, writes⟩ := Ty.typeExpr_adds (.oneOf arms) root draft
    exact ⟨items, adds, .item rfl writes⟩
  | list item => exact alias_adds (.list item) rfl root draft
  | set item => exact alias_adds (.set item) rfl root draft
  | optional inner => exact alias_adds (.optional inner) rfl root draft
  | leaf leaf => exact alias_adds (.leaf leaf) rfl root draft

/-- Calls one after another add the items of each in turn. -/
theorem emits_adds (calls : List (Ty × String)) (draft : Draft) :
    ∃ segments : List (List Item), draft.Adds segments.flatten
        (calls.foldl (fun draft call => (emit call.1 call.2 draft).2) draft) ∧
      List.Forall₂ (fun call segment => call.1.Emits (segment.map Item.signature)) calls
        segments := by
  induction calls generalizing draft with
  | nil => exact ⟨[], .refl draft, .nil⟩
  | cons call rest ih =>
    obtain ⟨segment, adds, emits⟩ := emit_adds call.1 call.2 draft
    obtain ⟨segments, adds', others⟩ := ih (emit call.1 call.2 draft).2
    exact ⟨segment :: segments, adds.trans adds', .cons emits others⟩

end DataModel.Draft

/-! ## How many items there are -/

theorem Record.nested_eq (record : Record) :
    record.nested = Ty.nestedArms (record.fields.map Field.ty) := by
  obtain ⟨title, description, fields⟩ := record
  show Record.nestedFields fields = Ty.nestedArms (fields.map Field.ty)
  induction fields with
  | nil => rfl
  | cons field rest ih =>
    obtain ⟨name, ty, required, default, constraints, title, description⟩ := field
    exact congrArg (ty.own + ty.nested + ·) ih

mutual

theorem Ty.Writes.length {ty : Ty} {text : String} {items : List Signature} :
    ty.Writes text items → items.length = ty.own + ty.nested
  | .text _ => rfl
  | .number => rfl
  | .list item => item.length.trans (Nat.zero_add _).symm
  | .set item => item.length.trans (Nat.zero_add _).symm
  | .optional inner => inner.length.trans (Nat.zero_add _).symm
  | .record _ parts => by
    rw [List.length_append, parts.length, Ty.own, Ty.nested, Record.nested_eq]
    exact Nat.add_comm _ _
  | .oneOf parts => by
    rw [List.length_append, parts.length, Ty.own, Ty.nested]
    exact Nat.add_comm _ _

theorem Ty.AllWrite.length {types : List Ty} {texts : List String} {items : List Signature} :
    Ty.AllWrite types texts items → items.length = Ty.nestedArms types
  | .nil => rfl
  | .cons first rest => by rw [List.length_append, first.length, rest.length, Ty.nestedArms]

end

theorem Ty.Emits.length {ty : Ty} {items : List Signature} (emits : ty.Emits items) :
    items.length = 1 + ty.nested := by
  cases emits with
  | item own writes => rw [writes.length, own]
  | «alias» own writes =>
    rw [List.length_append, writes.length, own, Nat.zero_add]
    exact Nat.add_comm _ _

theorem length_of_emits {calls : List (Ty × String)} {segments : List (List Signature)}
    (emits : List.Forall₂ (fun call segment => call.1.Emits segment) calls segments) :
    segments.flatten.length = (calls.map fun call => 1 + call.1.nested).sum := by
  induction emits with
  | nil => rfl
  | cons first rest ih => rw [List.flatten_cons, List.length_append, first.length, ih,
      List.map_cons, List.sum_cons]

end SchemaTypes
