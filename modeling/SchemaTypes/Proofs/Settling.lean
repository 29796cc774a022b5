import SchemaTypes.Proofs.Scope

/-! How one state may follow another while nodes are compiled. Slots only move forward, all else but
the journal is as before, and the journal never tells two types for one slot. -/
namespace SchemaTypes

/-- How a slot may have changed since the events before `events`. A body turns into the type that it
was compiled to; only a failure leaves one half done. -/
inductive Slot.Settles (failed : Bool) (events : List Event) : Slot → Slot → Prop where
  | same {slot : Slot} : Settles failed events slot slot
  | filled {definition : Definition} {ty : Ty} :
      .compiled definition.position definition.node ty ∈ events →
      Settles failed events (.pending definition) (.ready ty)
  | broken {definition : Definition} :
      failed = true → Settles failed events (.pending definition) .compiling

/-- A layer keeps its number and its names in their order. -/
structure Layer.Settles (failed : Bool) (events : List Event) (before after : Layer) : Prop where
  number : after.number = before.number
  slots : Keyed.Aligned (Slot.Settles failed events) before.slots after.slots

abbrev Scope.Settles (failed : Bool) (events : List Event) : Scope → Scope → Prop :=
  List.Forall₂ (Layer.Settles failed events)

/-- What a computation may leave behind, with the events that it added. -/
structure State.Restored (failed : Bool) (events : List Event) (before after : State) : Prop where
  position : after.position = before.position
  opened : after.opened = before.opened
  blocks : before.blocks ≤ after.blocks
  journal : after.journal = events ++ before.journal
  scope : Scope.Settles failed events before.scope after.scope

/-- A journal fits a scope: each block has a number of its own, and a name that was resolved stands
for its type, in scope and in the journal. -/
structure Agreement (scope : Scope) (blocks : Nat) (journal : List Event) : Prop where
  distinct : (scope.map Layer.number).Nodup
  numbered : ∀ layer ∈ scope, layer.number < blocks
  past : ∀ block name ty, .resolved block name ty ∈ journal → block < blocks
  ready : ∀ block name ty, .resolved block name ty ∈ journal →
    ∀ layer ∈ scope, layer.number = block → layer.slots.lookup name = some (.ready ty)
  unique : ∀ block name left right, .resolved block name left ∈ journal →
    .resolved block name right ∈ journal → left = right

/-- The events of a computation resolve names of blocks that were in scope or are new, and the
journal goes on fitting the scope. -/
structure State.Kept (failed : Bool) (events : List Event) (before after : State) : Prop
    extends State.Restored failed events before after where
  known : ∀ block name ty, .resolved block name ty ∈ events →
    block ∈ before.scope.map Layer.number ∨ before.blocks ≤ block
  agrees : Agreement before.scope before.blocks before.journal →
    Agreement after.scope after.blocks after.journal

/-! ## One change after another -/

variable {failed : Bool} {events earlier later : List Event}

theorem Slot.Settles.trans {a b c : Slot} (first : Slot.Settles false earlier a b)
    (second : Slot.Settles failed later b c) : Slot.Settles failed (later ++ earlier) a c := by
  cases first with
  | same =>
    cases second with
    | same => exact .same
    | filled compiled => exact .filled (List.mem_append_left _ compiled)
    | broken fails => exact .broken fails
  | filled compiled =>
    cases second
    exact .filled (List.mem_append_right _ compiled)
  | broken fails => contradiction

namespace Layer.Settles

theorem refl (layer : Layer) : Layer.Settles failed events layer layer :=
  ⟨rfl, List.forall₂_same.mpr fun _ _ => ⟨rfl, .same⟩⟩

theorem trans {a b c : Layer} (first : Layer.Settles false earlier a b)
    (second : Layer.Settles failed later b c) : Layer.Settles failed (later ++ earlier) a c :=
  ⟨second.number.trans first.number,
    first.slots.trans second.slots fun _ _ _ => Slot.Settles.trans⟩

/-- A body that was being compiled in its layer is a type in the end. -/
theorem fill {before after : Layer} {name : String} {definition : Definition} {ty : Ty}
    (settled : Layer.Settles failed events (before.set name .compiling) after)
    (declared : before.slots.lookup name = some (.pending definition))
    (compiled : .compiled definition.position definition.node ty ∈ events) :
    Layer.Settles failed events before (after.set name (.ready ty)) :=
  ⟨settled.number, settled.slots.exchange declared (.filled compiled)⟩

/-- A body that was being compiled at a failure is left half done. -/
theorem leave {before after : Layer} {name : String} {definition : Definition}
    (fails : failed = true)
    (settled : Layer.Settles failed events (before.set name .compiling) after)
    (declared : before.slots.lookup name = some (.pending definition)) :
    Layer.Settles failed events before after := by
  refine ⟨settled.number, settled.slots.of_insert declared fun slot related => ?_⟩
  cases related
  exact .broken fails

/-- A body that is being compiled is so until its type is set. -/
theorem compiling {before after : Layer} {name : String}
    (settled : Layer.Settles failed events (before.set name .compiling) after) :
    after.slots.lookup name = some .compiling := by
  obtain ⟨slot, there, moved⟩ := settled.slots.lookup (Keyed.lookup_insert_self _ _ _)
  cases moved
  exact there

end Layer.Settles

namespace Scope.Settles

theorem refl (scope : Scope) : Scope.Settles failed events scope scope :=
  List.forall₂_same.mpr fun layer _ => Layer.Settles.refl layer

theorem trans {a b c : Scope} (first : Scope.Settles false earlier a b)
    (second : Scope.Settles failed later b c) : Scope.Settles failed (later ++ earlier) a c := by
  induction first generalizing c with
  | nil =>
    cases second
    exact .nil
  | cons head _ ih =>
    cases second with
    | cons next rest => exact .cons (head.trans next) (ih rest)

end Scope.Settles

theorem Scope.Settles.numbers {a b : Scope} (settled : Scope.Settles failed events a b) :
    b.map Layer.number = a.map Layer.number := by
  induction settled with
  | nil => rfl
  | cons head _ ih => rw [List.map_cons, List.map_cons, head.number, ih]

/-- What each layer keeps, all layers keep. -/
theorem Scope.Settles.forall_layers {a b : Scope} {holds : Layer → Prop}
    (settled : Scope.Settles failed events a b)
    (keeps : ∀ left right, Layer.Settles failed events left right → holds left → holds right)
    (before : ∀ layer ∈ a, holds layer) : ∀ layer ∈ b, holds layer := by
  induction settled with
  | nil => exact before
  | cons head _ ih =>
    obtain ⟨first, others⟩ := List.forall_mem_cons.mp before
    exact List.forall_mem_cons.mpr ⟨keeps _ _ head first, ih others⟩

/-- A name is found where it was found before, and its slot has only moved forward. -/
theorem Scope.Settles.find? {a b : Scope} {name : String} {binding : Scope.Binding}
    (settled : Scope.Settles failed events a b) (found : a.find? name = some binding) :
    ∃ slot, b.find? name = some { binding with slot } ∧
      Slot.Settles failed events binding.slot slot := by
  induction settled with
  | nil => contradiction
  | @cons left right outer outer' head rest ih =>
    have lengths : outer'.length = outer.length := rest.length_eq.symm
    unfold Scope.find? at found ⊢
    cases here : left.find? name with
    | some slot =>
      rw [here] at found
      cases found
      obtain ⟨slot', there, moved⟩ := head.slots.lookup here
      rw [show right.find? name = some slot' from there, head.number, lengths]
      exact ⟨slot', rfl, moved⟩
    | none =>
      rw [here] at found
      rw [show right.find? name = none from head.slots.lookup_none here]
      exact ih found

theorem Scope.Settles.find?_none {a b : Scope} {name : String}
    (settled : Scope.Settles failed events a b) (absent : a.find? name = none) :
    b.find? name = none := by
  induction settled with
  | nil => rfl
  | @cons left right outer outer' head rest ih =>
    unfold Scope.find? at absent ⊢
    cases here : left.find? name with
    | some slot =>
      rw [here] at absent
      cases absent
    | none =>
      rw [here] at absent
      rw [show right.find? name = none from head.slots.lookup_none here]
      exact ih absent

/-- A name that stands for a type goes on to do so, in the same layer. -/
theorem Scope.Settles.ready {a b : Scope} {name : String} {level block : Nat} {ty : Ty}
    (settled : Scope.Settles failed events a b)
    (found : a.find? name = some ⟨level, block, .ready ty⟩) :
    b.find? name = some ⟨level, block, .ready ty⟩ := by
  obtain ⟨slot, there, moved⟩ := settled.find? found
  cases moved
  exact there

namespace State.Kept

theorem refl (state : State) : State.Kept failed [] state state where
  position := rfl
  opened := rfl
  blocks := Nat.le_refl _
  journal := rfl
  scope := Scope.Settles.refl _
  known := by simp
  agrees := id

theorem trans {a b c : State} (first : State.Kept false earlier a b)
    (second : State.Kept failed later b c) : State.Kept failed (later ++ earlier) a c where
  position := second.position.trans first.position
  opened := second.opened.trans first.opened
  blocks := Nat.le_trans first.blocks second.blocks
  journal := by rw [second.journal, first.journal, List.append_assoc]
  scope := first.scope.trans second.scope
  known := by
    intro block name ty member
    rcases List.mem_append.mp member with late | early
    · rw [← first.scope.numbers]
      exact (second.known _ _ _ late).imp_right (Nat.le_trans first.blocks)
    · exact first.known _ _ _ early
  agrees := second.agrees ∘ first.agrees

end State.Kept

/-! ## Journals that fit -/

namespace Agreement

variable {scope hidden outer rest : Scope} {layer inner : Layer} {blocks grown : Nat}
  {journal : List Event}

theorem note {event : Event} (agreement : Agreement scope blocks journal)
    (other : ∀ block name ty, event ≠ .resolved block name ty) :
    Agreement scope blocks (event :: journal) := by
  have same : ∀ block name ty, .resolved block name ty ∈ event :: journal →
      .resolved block name ty ∈ journal := by
    intro block name ty member
    rcases List.mem_cons.mp member with first | member
    · exact (other _ _ _ first.symm).elim
    · exact member
  exact {
    agreement with
    past := fun _ _ _ member => agreement.past _ _ _ (same _ _ _ member)
    ready := fun _ _ _ member => agreement.ready _ _ _ (same _ _ _ member)
    unique := fun _ _ _ _ left right =>
      agreement.unique _ _ _ _ (same _ _ _ left) (same _ _ _ right) }

/-- A name that stands for a type was resolved to that type whenever it was resolved. -/
theorem resolve {name : String} {level block : Nat} {ty : Ty}
    (agreement : Agreement scope blocks journal)
    (found : scope.find? name = some ⟨level, block, .ready ty⟩) :
    Agreement scope blocks (.resolved block name ty :: journal) := by
  obtain ⟨hidden, layer, outer, parts, -, number, slot, -⟩ := Scope.located found
  have here : layer ∈ scope := by simp [parts]
  have before : ∀ other, .resolved block name other ∈ journal → other = ty := by
    intro other member
    have stands := agreement.ready _ _ _ member layer here number.symm
    rw [slot] at stands
    cases stands
    rfl
  refine ⟨agreement.distinct, agreement.numbered, ?_, ?_, ?_⟩
  · intro other name' ty' member
    rcases List.mem_cons.mp member with first | member
    · cases first
      change block = layer.number at number
      exact number ▸ agreement.numbered layer here
    · exact agreement.past _ _ _ member
  · intro other name' ty' member same there number'
    rcases List.mem_cons.mp member with first | member
    · cases first
      rw [List.inj_on_of_nodup_map agreement.distinct there here (number'.trans number)]
      exact slot
    · exact agreement.ready _ _ _ member same there number'
  · intro other name' left right first second
    rcases List.mem_cons.mp first with now | first <;>
      rcases List.mem_cons.mp second with then' | second
    · cases now
      cases then'
      rfl
    · cases now
      exact (before _ second).symm
    · cases then'
      exact before _ first
    · exact agreement.unique _ _ _ _ first second

/-- No name of a block was resolved before the block was met. -/
theorem push {slots : List (String × Slot)} (agreement : Agreement scope blocks journal) :
    Agreement (⟨blocks, slots⟩ :: scope) (blocks + 1) journal where
  distinct := by
    refine List.nodup_cons.mpr ⟨fun member => ?_, agreement.distinct⟩
    obtain ⟨layer, here, number⟩ := List.mem_map.mp member
    exact Nat.lt_irrefl _ (number ▸ agreement.numbered layer here)
  numbered := List.forall_mem_cons.mpr
    ⟨Nat.lt_succ_self _, fun layer here => Nat.lt_succ_of_lt (agreement.numbered layer here)⟩
  past := fun block name ty member => Nat.lt_succ_of_lt (agreement.past block name ty member)
  ready := by
    intro block name ty member
    refine List.forall_mem_cons.mpr ⟨fun number => ?_, agreement.ready block name ty member⟩
    subst number
    exact (Nat.lt_irrefl _ (agreement.past _ _ _ member)).elim
  unique := agreement.unique

theorem pop (agreement : Agreement (layer :: scope) blocks journal) :
    Agreement scope blocks journal where
  distinct := (List.nodup_cons.mp agreement.distinct).2
  numbered := (List.forall_mem_cons.mp agreement.numbered).2
  past := agreement.past
  ready := fun block name ty member =>
    (List.forall_mem_cons.mp (agreement.ready block name ty member)).2
  unique := agreement.unique

/-- A name that is still pending was never resolved, so that its body can be taken out. -/
theorem hide {name : String} {definition : Definition}
    (agreement : Agreement (hidden ++ layer :: outer) blocks journal)
    (declared : layer.slots.lookup name = some (.pending definition)) :
    Agreement (layer.set name .compiling :: outer) blocks journal where
  distinct := by
    have distinct := agreement.distinct
    rw [List.map_append] at distinct
    exact distinct.of_append_right
  numbered := by
    have numbered := (List.forall_mem_append.mp agreement.numbered).2
    exact List.forall_mem_cons.mpr (List.forall_mem_cons.mp numbered)
  past := agreement.past
  ready := by
    intro block other ty member
    have ready := (List.forall_mem_append.mp (agreement.ready block other ty member)).2
    obtain ⟨here, outside⟩ := List.forall_mem_cons.mp ready
    refine List.forall_mem_cons.mpr ⟨fun number => ?_, outside⟩
    have stands := here number
    have differ : other ≠ name := by
      rintro rfl
      rw [declared] at stands
      cases stands
    rw [Layer.set_slots, Keyed.lookup_insert_of_ne differ]
    exact stands
  unique := agreement.unique

/-- What was hidden fits again: no name of a hidden block was resolved meanwhile. -/
theorem restore {changed : Layer} (whole : Agreement (hidden ++ layer :: outer) blocks journal)
    (inside : Agreement (inner :: rest) grown (events ++ journal)) (grows : blocks ≤ grown)
    (numbers : (inner :: rest).map Layer.number = (layer :: outer).map Layer.number)
    (known : ∀ block name ty, .resolved block name ty ∈ events →
      block ∈ (layer :: outer).map Layer.number ∨ blocks ≤ block)
    (number : changed.number = inner.number)
    (keeps : ∀ name ty, inner.slots.lookup name = some (.ready ty) →
      changed.slots.lookup name = some (.ready ty)) :
    Agreement (hidden ++ changed :: rest) grown (events ++ journal) where
  distinct := by
    have distinct := whole.distinct
    rw [List.map_append, ← numbers] at distinct
    rw [List.map_append, List.map_cons, number]
    exact distinct
  numbered := by
    refine List.forall_mem_append.mpr ⟨fun other member => ?_, ?_⟩
    · exact Nat.lt_of_lt_of_le (whole.numbered other (List.mem_append_left _ member)) grows
    · rw [List.forall_mem_cons, number]
      exact List.forall_mem_cons.mp inside.numbered
  past := inside.past
  ready := by
    intro block name ty member
    obtain ⟨here, outside⟩ := List.forall_mem_cons.mp (inside.ready block name ty member)
    refine List.forall_mem_append.mpr ⟨fun other concealed number => ?_,
      List.forall_mem_cons.mpr ⟨fun same => keeps name ty (here (number ▸ same)), outside⟩⟩
    have there : other ∈ hidden ++ layer :: outer := List.mem_append_left _ concealed
    rcases List.mem_append.mp member with late | early
    · subst number
      rcases known _ _ _ late with visible | new
      · have distinct := whole.distinct
        rw [List.map_append] at distinct
        exact ((List.nodup_append.mp distinct).2.2 _ (List.mem_map_of_mem concealed) _ visible
          rfl).elim
      · exact (Nat.lt_irrefl _ (Nat.lt_of_lt_of_le (whole.numbered other there) new)).elim
    · exact whole.ready block name ty early other there number
  unique := inside.unique

end Agreement

end SchemaTypes
