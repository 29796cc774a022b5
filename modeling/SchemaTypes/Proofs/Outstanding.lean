import SchemaTypes.Proofs.Restoration
import SchemaTypes.Proofs.Parts

/-! What a compilation may still have to compile: the bodies that nobody has asked for yet, and the
documents that can still be opened. Compiling never adds to it, for a block of definitions that
comes into scope is paid for by the node that holds it. -/
namespace SchemaTypes

/-- The size of what is still to be compiled for a slot. -/
def Slot.outstanding : Slot → Nat
  | .pending definition => definition.node.size
  | _ => 0

def Layer.outstanding (layer : Layer) : Nat := Keyed.total Slot.outstanding layer.slots

def Scope.outstanding : Scope → Nat
  | [] => 0
  | layer :: outer => layer.outstanding + Scope.outstanding outer

/-- Which nodes may be compiled, and how much can still be opened when some documents are open. -/
structure Ration where
  admitted : Json → Prop
  rest : List Location.Key → Nat

/-- Admitted nodes lead to admitted nodes only, and a document that is opened is paid for. -/
structure Ration.Covers (ration : Ration) (loader : Loader) : Prop where
  part : ∀ members path node, ration.admitted (.obj members) → Node.Part members path node →
    ration.admitted node
  entry : ∀ members entries entry, ration.admitted (.obj members) →
    Definitions.entries members = .ok entries → entry ∈ entries → ration.admitted entry.node
  document : ∀ (members : Members) reference opened location document,
    ration.admitted (.obj members) → members.get? "$ref" = some (.str reference) →
    Reference.localFragment? reference = none → loader.load location = .ok document →
    location.key ∉ opened →
    ration.admitted document ∧
      (∀ pointer node, document.pointer? pointer = some node → ration.admitted node) ∧
      ration.rest (location.key :: opened) + document.size ≤ ration.rest opened

/-- All bodies in scope may be compiled, and at most `n` is outstanding. -/
structure State.Within (ration : Ration) (n : Nat) (state : State) : Prop where
  bodies : ∀ layer ∈ state.scope, ∀ name definition,
    layer.slots.lookup name = some (.pending definition) → ration.admitted definition.node
  bounded : state.scope.outstanding + ration.rest state.opened ≤ n

variable {ration : Ration} {failed : Bool} {events : List Event} {n : Nat}

theorem Scope.outstanding_cons (layer : Layer) (outer : Scope) :
    Scope.outstanding (layer :: outer) = layer.outstanding + Scope.outstanding outer := rfl

theorem Scope.outstanding_append (hidden outer : Scope) :
    Scope.outstanding (hidden ++ outer) = Scope.outstanding hidden + Scope.outstanding outer := by
  induction hidden with
  | nil => exact (Nat.zero_add _).symm
  | cons layer hidden ih =>
    rw [List.cons_append, outstanding_cons, outstanding_cons, ih, Nat.add_assoc]

theorem Slot.Settles.outstanding_le {a b : Slot} (settled : Slot.Settles failed events a b) :
    b.outstanding ≤ a.outstanding := by
  cases settled with
  | same => exact Nat.le_refl _
  | filled | broken => exact Nat.zero_le _

theorem Scope.Settles.outstanding_le {a b : Scope} (settled : Scope.Settles failed events a b) :
    Scope.outstanding b ≤ Scope.outstanding a := by
  induction settled with
  | nil => exact Nat.le_refl _
  | @cons left right _ _ head _ ih =>
    rw [Scope.outstanding_cons, Scope.outstanding_cons]
    have shrinks : right.outstanding ≤ left.outstanding :=
      head.slots.total_le fun _ _ related => related.outstanding_le
    omega

/-- A body that is still pending was pending before. -/
theorem Layer.Settles.pending {a b : Layer} {name : String} {definition : Definition}
    (settled : Layer.Settles failed events a b)
    (declared : b.slots.lookup name = some (.pending definition)) :
    a.slots.lookup name = some (.pending definition) := by
  obtain ⟨slot, before, related⟩ := settled.slots.flip.lookup declared
  cases related
  exact before

namespace State.Within

theorem kept {before after : State} (within : before.Within ration n)
    (kept : State.Kept failed events before after) : after.Within ration n where
  bodies := by
    refine kept.scope.forall_layers (fun left right settled admitted => ?_) within.bodies
    exact fun name definition declared => admitted name definition (settled.pending declared)
  bounded := by
    have scope := kept.scope.outstanding_le
    rw [kept.opened]
    exact Nat.le_trans (Nat.add_le_add_right scope _) within.bounded

/-- In the beginning there are documents to open at most. -/
theorem start (ration : Ration) (registry : Registry) :
    (State.start registry).Within ration (ration.rest []) where
  bodies := by
    refine List.forall_mem_singleton.mpr fun name definition declared => ?_
    rw [Keyed.lookup_map] at declared
    obtain ⟨ty, -, ready⟩ := Option.map_eq_some_iff.mp declared
    cases ready
  bounded := by
    have known : Scope.outstanding (Scope.ofRegistry registry) = 0 := by
      refine (Nat.add_zero _).trans (Keyed.total_eq_zero fun slot member => ?_)
      obtain ⟨entry, -, rfl⟩ := List.mem_map.mp member
      rfl
    simp only [State.start, known]
    omega

end State.Within

namespace Definitions

variable {compile : NodeCompiler} {name : String} {definition : Definition} {layer : Layer}
  {hidden outer : Scope} {state after : State} {entries : List Entry} {position : Position}

/-- A body that is demanded is no longer outstanding. -/
theorem demanding_within (within : state.Within ration n)
    (parts : state.scope = hidden ++ layer :: outer)
    (declared : layer.slots.lookup name = some (.pending definition)) :
    definition.node.size ≤ n ∧ ration.admitted definition.node ∧
      (demanding state name definition layer outer).Within ration (n - definition.node.size) := by
  have swapped : (layer.set name .compiling).outstanding + definition.node.size =
      layer.outstanding := Keyed.total_insert declared
  have bounded := within.bounded
  rw [parts, Scope.outstanding_append, Scope.outstanding_cons] at bounded
  have bodies := within.bodies
  rw [parts] at bodies
  obtain ⟨here, outside⟩ := List.forall_mem_cons.mp (List.forall_mem_append.mp bodies).2
  refine ⟨by omega, here name definition declared, ?_, ?_⟩
  · refine List.forall_mem_cons.mpr ⟨fun other body pending => ?_, outside⟩
    have differ : other ≠ name := by
      rintro rfl
      rw [Layer.set_slots, Keyed.lookup_insert_self] at pending
      cases pending
    rw [Layer.set_slots, Keyed.lookup_insert_of_ne differ] at pending
    exact here other body pending
  · simp only [demanding, Scope.outstanding_cons]
    omega

theorem slots_outstanding (position : Position) (entries : List Entry) :
    Keyed.total Slot.outstanding (slots position entries) ≤ bodySizes entries :=
  Nat.le_trans Keyed.total_ofPairs_le
    (Nat.le_of_eq (total_map_entries (declare position) (fun _ => rfl) entries))

theorem entering_within (within : state.Within ration n)
    (admitted : ∀ entry ∈ entries, ration.admitted entry.node) :
    (state.entering (slots position entries)).Within ration (n + bodySizes entries) where
  bodies := by
    refine List.forall_mem_cons.mpr ⟨fun name definition declared => ?_, within.bodies⟩
    obtain ⟨entry, member, -, same⟩ := mem_slots (Keyed.mem_of_lookup declared)
    cases same
    exact admitted entry member
  bounded := by
    have paid := slots_outstanding position entries
    have bounded := within.bounded
    simp only [State.entering, Scope.outstanding_cons, Layer.outstanding]
    omega

/-- When all entries of a block are resolved, nothing of the block is outstanding. -/
theorem resolveAll_within (restores : compile.Restores) (within : state.Within ration n)
    (admitted : ∀ entry ∈ entries, ration.admitted entry.node)
    (ran : resolveAll compile entries (state.entering (slots position entries)) =
      (.ok (), after)) : after.Within ration n := by
  have found := resolveAll_ok restores ran
  obtain ⟨events, kept⟩ :=
    resolveAll_restores restores entries (state.entering (slots position entries))
  rw [ran] at kept
  obtain ⟨inner, rest, settled, others, same⟩ := List.forall₂_cons_left_iff.mp kept.scope
  have keys : Keyed.keys inner.slots = Keyed.keys (slots position entries) := settled.slots.keys_eq
  have distinct : (Keyed.keys inner.slots).Nodup := keys ▸ Keyed.nodup_ofPairs _
  have ready : ∀ entry ∈ inner.slots, entry.2.outstanding = 0 := by
    rintro ⟨name, slot⟩ member
    have named : name ∈ Keyed.keys (slots position entries) :=
      keys ▸ List.mem_map.mpr ⟨_, member, rfl⟩
    obtain ⟨⟨_, declared⟩, listed, rfl⟩ := List.mem_map.mp named
    obtain ⟨entry, here, rfl, -⟩ := mem_slots listed
    obtain ⟨level, block, ty, stands⟩ := found entry here
    have present : inner.find? entry.name = some slot := Keyed.lookup_of_mem distinct member
    rw [same, Scope.find?, present] at stands
    cases stands
    rfl
  have empty : inner.outstanding = 0 := Keyed.total_eq_zero ready
  refine ⟨((entering_within within admitted).kept kept).bodies, ?_⟩
  have outside : Scope.outstanding rest ≤ state.scope.outstanding :=
    Scope.Settles.outstanding_le others
  have opened : after.opened = state.opened := kept.opened
  have bounded := within.bounded
  rw [same, Scope.outstanding_cons, empty, opened]
  omega

end Definitions

end SchemaTypes
