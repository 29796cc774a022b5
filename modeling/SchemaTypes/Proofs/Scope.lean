import SchemaTypes.Proofs.Compile
import SchemaTypes.Proofs.Keyed
import SchemaTypes.Schema.Definitions

/-! A scope as seen from one of its names: the layers inside of the name's own, that layer, and the
layers outside of it. What hiding, setting and demanding do is stated in these parts. -/
namespace SchemaTypes

namespace Layer

@[simp] theorem set_number (layer : Layer) (name : String) (slot : Slot) :
    (layer.set name slot).number = layer.number := rfl

@[simp] theorem set_slots (layer : Layer) (name : String) (slot : Slot) :
    (layer.set name slot).slots = Keyed.insert layer.slots name slot := rfl

end Layer

namespace Scope

variable {scope hidden outer : Scope} {layer : Layer} {name : String}

/-- The layer in which a name is found, with the layers inside and outside of it. -/
structure Located (scope : Scope) (name : String) (binding : Binding) where
  hidden : Scope
  layer : Layer
  outer : Scope
  parts : scope = hidden ++ layer :: outer
  level : binding.level = outer.length
  block : binding.block = layer.number
  slot : layer.slots.lookup name = some binding.slot
  shadowless : ∀ inner ∈ hidden, inner.slots.lookup name = none

theorem located {binding : Binding} (found : scope.find? name = some binding) :
    Nonempty (Located scope name binding) := by
  induction scope with
  | nil => contradiction
  | cons layer outer ih =>
    unfold find? at found
    split at found
    · next slot here =>
      cases found
      exact ⟨⟨[], layer, outer, rfl, rfl, rfl, here, by simp⟩⟩
    · next absent =>
      obtain ⟨hidden, inner, rest, parts, level, block, slot, shadowless⟩ := ih found
      refine ⟨⟨layer :: hidden, inner, rest, by rw [parts]; rfl, level, block, slot, ?_⟩⟩
      exact List.forall_mem_cons.mpr ⟨absent, shadowless⟩

@[simp] theorem above_append : above (hidden ++ layer :: outer) outer.length = hidden := by
  simp [above]

@[simp] theorem upTo_append : upTo (hidden ++ layer :: outer) outer.length = layer :: outer := by
  simp [upTo]

@[simp] theorem set_cons (slot : Slot) :
    set (layer :: outer) outer.length name slot = layer.set name slot :: outer := by
  simp [set]

@[simp] theorem set_append (slot : Slot) :
    set (hidden ++ layer :: outer) outer.length name slot =
      hidden ++ layer.set name slot :: outer := by
  induction hidden with
  | nil => simp
  | cons inner hidden ih =>
    have deeper : (hidden ++ layer :: outer).length ≠ outer.length := by
      simp only [List.length_append, List.length_cons]
      omega
    simp only [List.cons_append, set, if_neg deeper, ih]

/-- Layers that lack a name do not count in the search for it. -/
theorem find?_append (shadowless : ∀ inner ∈ hidden, inner.slots.lookup name = none) :
    (hidden ++ scope).find? name = scope.find? name := by
  induction hidden with
  | nil => rfl
  | cons inner hidden ih =>
    obtain ⟨absent, shadowless⟩ := List.forall_mem_cons.mp shadowless
    change inner.find? name = none at absent
    simp only [List.cons_append, find?, absent, ih shadowless]

theorem find?_set_cons (slot : Slot) :
    find? (layer.set name slot :: outer) name = some ⟨outer.length, layer.number, slot⟩ := by
  simp [find?, Layer.find?]

/-- What holds for every slot of a scope. -/
def Each (holds : Slot → Prop) (scope : Scope) : Prop :=
  ∀ layer ∈ scope, ∀ name slot, layer.slots.lookup name = some slot → holds slot

namespace Each

variable {holds : Slot → Prop} {slot : Slot}

theorem drop (every : scope.Each holds) (n : Nat) : Scope.Each holds (scope.drop n) :=
  fun layer member => every layer (List.mem_of_mem_drop member)

theorem append (inside : hidden.Each holds) (outside : outer.Each holds) :
    Scope.Each holds (hidden ++ outer) :=
  List.forall_mem_append.mpr ⟨inside, outside⟩

theorem of_append (every : Scope.Each holds (hidden ++ outer)) :
    hidden.Each holds ∧ outer.Each holds :=
  List.forall_mem_append.mp every

theorem set (every : Scope.Each holds (layer :: outer)) (fits : holds slot) :
    Scope.Each holds (layer.set name slot :: outer) := by
  obtain ⟨here, outside⟩ := List.forall_mem_cons.mp every
  refine List.forall_mem_cons.mpr ⟨fun other stands found => ?_, outside⟩
  rw [Layer.set_slots] at found
  by_cases same : other = name
  · subst same
    rw [Keyed.lookup_insert_self] at found
    cases found
    exact fits
  · rw [Keyed.lookup_insert_of_ne same] at found
    exact here other stands found

theorem cons {number : Nat} {slots : List (String × Slot)} (outside : outer.Each holds)
    (fits : ∀ slot ∈ slots, holds slot.2) : Scope.Each holds (⟨number, slots⟩ :: outer) :=
  List.forall_mem_cons.mpr ⟨fun _ _ found => fits _ (Keyed.mem_of_lookup found), outside⟩

end Each

end Scope

namespace Definitions

variable {compile : NodeCompiler} {name : String} {definition : Definition} {state after : State}
  {hidden outer : Scope} {layer : Layer}

theorem resolve_of_none {reference : String} (absent : state.scope.find? name = none) :
    resolve compile name reference state =
      (.error (.unresolvedReference reference state.position), state) := by
  simp only [resolve, Compile.read_bind, absent]
  rfl

theorem resolve_of_some {reference : String} {binding : Scope.Binding}
    (found : state.scope.find? name = some binding) :
    resolve compile name reference state = (do
      let ty ← settle compile name reference binding
      Compile.note fun _ => .resolved binding.block name ty
      pure ty : Compile Ty) state := by
  simp only [resolve, Compile.read_bind, found]

/-- A name that is resolved well was found in scope and settled, and that was noted. -/
theorem resolve_settled {reference : String} {ty : Ty}
    (ran : resolve compile name reference state = (.ok ty, after)) :
    ∃ binding middle, state.scope.find? name = some binding ∧
      settle compile name reference binding state = (.ok ty, middle) ∧
      after = { middle with journal := .resolved binding.block name ty :: middle.journal } := by
  cases found : state.scope.find? name with
  | none =>
    rw [resolve_of_none found] at ran
    cases ran
  | some binding =>
    rw [resolve_of_some found] at ran
    obtain ⟨_, middle, settled, noted⟩ := Compile.bind_ok ran
    cases noted
    exact ⟨binding, middle, rfl, settled, rfl⟩

/-- A slot of a fresh block is one of its entries. -/
theorem mem_slots {position : Position} {entries : List Entry} {slot : Slot}
    (member : (name, slot) ∈ slots position entries) :
    ∃ entry ∈ entries, entry.name = name ∧ slot = declare position entry := by
  obtain ⟨entry, here, same⟩ := List.mem_map.mp (Keyed.mem_ofPairs member)
  cases same
  exact ⟨entry, here, rfl, rfl⟩

/-- The state in which a demanded body is compiled. -/
def demanding (state : State) (name : String) (definition : Definition) (layer : Layer)
    (outer : Scope) : State :=
  { state with
    position := definition.position, scope := layer.set name .compiling :: outer }

theorem demand_of_ok {ty : Ty} (parts : state.scope = hidden ++ layer :: outer)
    (ran : compile definition.node (demanding state name definition layer outer) =
      (.ok ty, after)) :
    demand compile outer.length name definition state = (.ok ty, { after with
      position := state.position
      scope := Scope.set (hidden ++ after.scope) outer.length name (.ready ty) }) := by
  unfold demanding at ran
  simp only [demand, parts, Scope.above_append, Scope.upTo_append, Scope.set_cons, Compile.within,
    ran]

theorem demand_of_error {error : CompileError} (parts : state.scope = hidden ++ layer :: outer)
    (ran : compile definition.node (demanding state name definition layer outer) =
      (.error error, after)) :
    demand compile outer.length name definition state = (.error error, { after with
      position := state.position, scope := hidden ++ after.scope }) := by
  unfold demanding at ran
  simp only [demand, parts, Scope.above_append, Scope.upTo_append, Scope.set_cons, Compile.within,
    ran]

/-- A demand has the outcome and the events of its body. -/
theorem demand_ends (parts : state.scope = hidden ++ layer :: outer) :
    (demand compile outer.length name definition state).1 =
        (compile definition.node (demanding state name definition layer outer)).1 ∧
      (demand compile outer.length name definition state).2.journal =
        (compile definition.node (demanding state name definition layer outer)).2.journal := by
  cases ended : compile definition.node (demanding state name definition layer outer) with
  | mk outcome middle =>
    cases outcome with
    | ok ty =>
      rw [demand_of_ok parts ended]
      exact ⟨rfl, rfl⟩
    | error error =>
      rw [demand_of_error parts ended]
      exact ⟨rfl, rfl⟩

theorem demand_error {error : CompileError} (parts : state.scope = hidden ++ layer :: outer)
    (ran : demand compile outer.length name definition state = (.error error, after)) :
    ∃ middle, compile definition.node (demanding state name definition layer outer) =
      (.error error, middle) ∧ after.journal = middle.journal := by
  obtain ⟨outcome, journal⟩ := demand_ends parts
  rw [ran] at outcome journal
  exact ⟨(compile definition.node (demanding state name definition layer outer)).2,
    Prod.ext outcome.symm rfl, journal⟩

end Definitions

end SchemaTypes
