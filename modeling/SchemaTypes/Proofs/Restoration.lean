import SchemaTypes.Proofs.Plan
import SchemaTypes.Proofs.Settling
import SchemaTypes.Schema.Compilation

/-! Compiling a node leaves the state as it found it, but for bodies that are compiled meanwhile and
for the journal. This holds at every end, good or bad, from every state and for every loader: each
change that belongs to a part of the schema is taken back when the part is done. -/
namespace SchemaTypes

/-- Whether a computation ended with an error. -/
def Compile.isFailure {α : Type} : Except CompileError α → Bool
  | .ok _ => false
  | .error _ => true

def Compile.RestoresFrom {α : Type} (body : Compile α) (state : State) : Prop :=
  ∃ events, State.Kept (isFailure (body state).1) events state (body state).2

/-- Whatever a computation changes besides slots and journal it takes back. -/
def Compile.Restores {α : Type} (body : Compile α) : Prop := ∀ state, body.RestoresFrom state

/-- A compiler restores the state and notes the type of each node that it compiles. -/
def NodeCompiler.Restores (compile : NodeCompiler) : Prop :=
  ∀ node state, ∃ events, State.Kept (Compile.isFailure (compile node state).1) events state
    (compile node state).2 ∧
    ∀ ty, (compile node state).1 = .ok ty → .compiled state.position node ty ∈ events

namespace Compile

variable {α β : Type} {body : Compile α} {state : State}

theorem RestoresFrom.bind {next : α → Compile β} (first : body.RestoresFrom state)
    (rest : ∀ a after, body state = (.ok a, after) → (next a).RestoresFrom after) :
    (body >>= next).RestoresFrom state := by
  obtain ⟨earlier, restored⟩ := first
  unfold RestoresFrom
  rcases bind_ends body next state with ⟨error, middle, ended, whole⟩ | ⟨a, middle, ended, whole⟩
  · rw [ended] at restored
    rw [whole]
    exact ⟨earlier, restored⟩
  · rw [ended] at restored
    rw [whole]
    obtain ⟨later, again⟩ := rest a middle ended
    exact ⟨later ++ earlier, restored.trans again⟩

namespace Restores

theorem pure (a : α) : (Pure.pure a : Compile α).Restores := fun state => ⟨[], .refl state⟩

theorem raise (error : CompileError) : (Compile.raise error : Compile α).Restores :=
  fun state => ⟨[], .refl state⟩

theorem fail (fault : Fault) : (Compile.fail fault : Compile α).Restores :=
  fun state => ⟨[], .refl state⟩

theorem ofExcept (outcome : Except Fault α) : (Compile.ofExcept outcome).Restores := by
  cases outcome with
  | ok a => exact pure a
  | error fault => exact fail fault

theorem read (look : State → α) : (Compile.read look).Restores := fun state => ⟨[], .refl state⟩

theorem note {event : Position → Event}
    (other : ∀ position block name ty, event position ≠ .resolved block name ty) :
    (Compile.note event).Restores := fun state => ⟨[event state.position], {
      position := rfl
      opened := rfl
      blocks := Nat.le_refl _
      journal := rfl
      scope := Scope.Settles.refl _
      known := by
        intro block name ty member
        exact (other _ _ _ _ (List.mem_singleton.mp member).symm).elim
      agrees := fun agreement => agreement.note (other _) }⟩

theorem bind {next : α → Compile β} (first : body.Restores) (rest : ∀ a, (next a).Restores) :
    (body >>= next).Restores := fun state =>
  RestoresFrom.bind (first state) fun a after _ => rest a after

theorem under (segments : List String) (inside : body.Restores) :
    (Compile.under segments body).Restores := by
  intro state
  obtain ⟨events, restored⟩ := inside
    { state with position.path := state.position.path ++ segments }
  refine ⟨events, { restored with position := ?_ }⟩
  simp only [Compile.under]
  rw [restored.position]
  simp

theorem within (position : Position) (inside : body.Restores) :
    (Compile.within position body).Restores := by
  intro state
  obtain ⟨events, restored⟩ := inside { state with position }
  exact ⟨events, { restored with position := rfl }⟩

theorem opening (location : Location) (inside : body.Restores) :
    (Compile.opening location body).Restores := by
  intro state
  obtain ⟨events, restored⟩ := inside { state with opened := location.key :: state.opened }
  refine ⟨events, { restored with opened := ?_ }⟩
  simp only [Compile.opening]
  rw [restored.opened]
  simp

theorem withLayer (slots : List (String × Slot)) (inside : body.Restores) :
    (Compile.withLayer slots body).Restores := by
  intro state
  obtain ⟨events, restored⟩ := inside (state.entering slots)
  obtain ⟨inner, rest, -, outer, same⟩ := List.forall₂_cons_left_iff.mp restored.scope
  refine ⟨events, { restored with blocks := ?_, scope := ?_, known := ?_, agrees := ?_ }⟩
  · exact Nat.le_of_succ_le restored.blocks
  · simp only [Compile.withLayer]
    rw [same]
    exact outer
  · intro block name ty member
    rcases restored.known _ _ _ member with visible | new
    · rcases List.mem_cons.mp visible with own | visible
      · exact Or.inr (Nat.le_of_eq own.symm)
      · exact Or.inl visible
    · exact Or.inr (Nat.le_of_succ_le new)
  · intro agreement
    have fits := restored.agrees agreement.push
    rw [same] at fits
    simp only [Compile.withLayer]
    rw [same]
    exact fits.pop

end Restores

end Compile

theorem NodeCompiler.Restores.node {compile : NodeCompiler} (restores : compile.Restores)
    (node : Json) : (compile node).Restores := fun state =>
  (restores node state).imp fun _ restored => restored.1

theorem Plan.run_restores {α : Type} {compile : NodeCompiler} (restores : compile.Restores)
    (plan : Plan α) : (plan.run compile).Restores := by
  induction plan with
  | done a => exact .pure a
  | fail fault => exact .fail fault
  | note remark => exact .note (by simp)
  | visit node => exact restores.node node
  | under segments plan ih => exact .under segments ih
  | andThen first next firstIH nextIH => exact firstIH.bind nextIH

namespace Definitions

variable {compile : NodeCompiler}

theorem demand_restores (restores : compile.Restores) {state : State} {name : String}
    {binding : Scope.Binding} {definition : Definition}
    (found : state.scope.find? name = some binding)
    (declared : binding.slot = .pending definition) :
    (demand compile binding.level name definition).RestoresFrom state := by
  unfold Compile.RestoresFrom
  obtain ⟨hidden, layer, outer, parts, level, -, slot, -⟩ := Scope.located found
  rw [declared] at slot
  obtain ⟨events, restored, noted⟩ :=
    restores definition.node (demanding state name definition layer outer)
  rw [level]
  cases ends : compile definition.node (demanding state name definition layer outer) with
  | mk outcome after =>
    rw [ends] at restored noted
    obtain ⟨inner, rest, settled, others, same⟩ := List.forall₂_cons_left_iff.mp restored.scope
    have known : ∀ block name ty, .resolved block name ty ∈ events →
        block ∈ (layer :: outer).map Layer.number ∨ state.blocks ≤ block := restored.known
    have unknown : ∀ block name ty, .resolved block name ty ∈ events →
        block ∈ state.scope.map Layer.number ∨ state.blocks ≤ block := by
      intro block name ty member
      rw [parts, List.map_append]
      exact (known _ _ _ member).imp_left (List.mem_append_right _)
    have agrees : ∀ changed : Layer, changed.number = inner.number →
        (∀ other ty, inner.slots.lookup other = some (.ready ty) →
          changed.slots.lookup other = some (.ready ty)) →
        Agreement state.scope state.blocks state.journal →
        Agreement (hidden ++ changed :: rest) after.blocks after.journal := by
      intro changed number keeps whole
      rw [parts] at whole
      have inside := restored.agrees (whole.hide slot)
      have numbers := restored.scope.numbers
      rw [same, restored.journal] at inside
      rw [same] at numbers
      rw [restored.journal]
      exact whole.restore inside restored.blocks numbers known number keeps
    cases outcome with
    | ok ty =>
      rw [demand_of_ok parts ends]
      have filled : Scope.set (hidden ++ after.scope) outer.length name (.ready ty) =
          hidden ++ inner.set name (.ready ty) :: rest := by
        rw [same, others.length_eq, Scope.set_append]
      rw [filled]
      refine ⟨events, ⟨rfl, restored.opened, restored.blocks, restored.journal, ?_⟩, unknown, ?_⟩
      · rw [parts]
        exact List.rel_append (Scope.Settles.refl hidden)
          (.cons (settled.fill slot (noted ty rfl)) others)
      · refine agrees _ rfl fun other type stands => ?_
        have differ : other ≠ name := by
          rintro rfl
          rw [settled.compiling] at stands
          cases stands
        rw [Layer.set_slots, Keyed.lookup_insert_of_ne differ]
        exact stands
    | error error =>
      rw [demand_of_error parts ends]
      rw [same]
      refine ⟨events, ⟨rfl, restored.opened, restored.blocks, restored.journal, ?_⟩, unknown, ?_⟩
      · rw [parts]
        exact List.rel_append (Scope.Settles.refl hidden) (.cons (settled.leave rfl slot) others)
      · exact agrees inner rfl fun _ _ stands => stands

theorem settle_restores (restores : compile.Restores) {state : State} {name : String}
    {binding : Scope.Binding} (reference : String)
    (found : state.scope.find? name = some binding) :
    (settle compile name reference binding).RestoresFrom state := by
  unfold settle
  split
  · exact Compile.Restores.pure _ state
  · exact Compile.Restores.fail _ state
  · next definition declared => exact demand_restores restores found declared

/-- A demand that goes well: the body compiled, with its own slot marked, and the layer around it
back in its place. -/
theorem demand_ok (restores : compile.Restores) {state after : State} {name : String}
    {definition : Definition} {hidden outer : Scope} {layer : Layer} {ty : Ty}
    (parts : state.scope = hidden ++ layer :: outer)
    (ran : demand compile outer.length name definition state = (.ok ty, after)) :
    ∃ middle inner rest,
      compile definition.node (demanding state name definition layer outer) = (.ok ty, middle) ∧
      middle.scope = inner :: rest ∧ rest.length = outer.length ∧
      inner.number = layer.number ∧
      after = { middle with
        position := state.position, scope := hidden ++ inner.set name (.ready ty) :: rest } := by
  obtain ⟨events, restored, -⟩ :=
    restores definition.node (demanding state name definition layer outer)
  cases ends : compile definition.node (demanding state name definition layer outer) with
  | mk outcome middle =>
    cases outcome with
    | ok type =>
      rw [ends] at restored
      obtain ⟨inner, rest, settled, others, same⟩ := List.forall₂_cons_left_iff.mp restored.scope
      rw [demand_of_ok parts ends, same, others.length_eq, Scope.set_append] at ran
      cases ran
      exact ⟨middle, inner, rest, rfl, same, others.length_eq.symm, settled.number, rfl⟩
    | error error =>
      rw [demand_of_error parts ends] at ran
      cases ran

/-- Once a name is settled, it is found where it was found before, with its type. -/
theorem settle_ok (restores : compile.Restores) {state after : State} {name reference : String}
    {binding : Scope.Binding} {ty : Ty} (found : state.scope.find? name = some binding)
    (ran : settle compile name reference binding state = (.ok ty, after)) :
    after.scope.find? name = some ⟨binding.level, binding.block, .ready ty⟩ := by
  obtain ⟨level, block, slot⟩ := binding
  cases slot with
  | ready type =>
    cases ran
    exact found
  | compiling => cases ran
  | pending definition =>
    obtain ⟨hidden, layer, outer, parts, rfl, rfl, -, shadowless⟩ := Scope.located found
    obtain ⟨middle, inner, rest, -, -, length, same, rfl⟩ := demand_ok restores parts ran
    rw [Scope.find?_append shadowless, Scope.find?_set_cons, length, same]

theorem resolve_restores (restores : compile.Restores) (name reference : String) :
    (resolve compile name reference).Restores := by
  intro state
  unfold Compile.RestoresFrom
  cases found : state.scope.find? name with
  | none =>
    rw [resolve_of_none found]
    exact ⟨[], .refl state⟩
  | some binding =>
    rw [resolve_of_some found]
    refine Compile.RestoresFrom.bind (settle_restores restores reference found)
      fun ty after ran => ?_
    have stands := settle_ok restores found ran
    refine ⟨[.resolved binding.block name ty], ⟨rfl, rfl, Nat.le_refl _, rfl, .refl _⟩, ?_, ?_⟩
    · intro block other type member
      cases List.mem_singleton.mp member
      obtain ⟨hidden, layer, outer, parts, -, number, -, -⟩ := Scope.located stands
      rw [parts, number]
      exact Or.inl (List.mem_map_of_mem (by simp))
    · exact fun agreement => agreement.resolve stands

theorem resolveAll_restores (restores : compile.Restores) (entries : List Entry) :
    (resolveAll compile entries).Restores := by
  induction entries with
  | nil => exact .pure ()
  | cons entry rest ih => exact (resolve_restores restores _ _).bind fun _ => ih

theorem resolve_ok (restores : compile.Restores) {state after : State} {name reference : String}
    {ty : Ty} (ran : resolve compile name reference state = (.ok ty, after)) :
    ∃ level block, after.scope.find? name = some ⟨level, block, .ready ty⟩ := by
  obtain ⟨binding, middle, found, settled, rfl⟩ := resolve_settled ran
  have stands := settle_ok restores found settled
  exact ⟨binding.level, binding.block, stands⟩

/-- When all entries are resolved, each stands for a type. -/
theorem resolveAll_ok (restores : compile.Restores) {entries : List Entry} {state after : State}
    (ran : resolveAll compile entries state = (.ok (), after)) :
    ∀ entry ∈ entries, ∃ level block ty,
      after.scope.find? entry.name = some ⟨level, block, .ready ty⟩ := by
  induction entries generalizing state with
  | nil => simp
  | cons entry rest ih =>
    obtain ⟨ty, middle, first, others⟩ := Compile.bind_ok ran
    refine List.forall_mem_cons.mpr ⟨?_, ih others⟩
    obtain ⟨level, block, found⟩ := resolve_ok restores first
    obtain ⟨events, kept⟩ := resolveAll_restores restores rest middle
    rw [others] at kept
    exact ⟨level, block, ty, kept.scope.ready found⟩

theorem within_restores {α : Type} (restores : compile.Restores) (members : Members)
    {body : Compile α} (inside : body.Restores) : (within compile members body).Restores := by
  refine (Compile.Restores.ofExcept _).bind fun entries => ?_
  split
  · exact inside
  · refine (Compile.Restores.note (by simp)).bind fun _ => ?_
    refine (Compile.Restores.read _).bind fun position => ?_
    exact .withLayer _ ((resolveAll_restores restores entries).bind fun _ => inside)

end Definitions

namespace Reference

variable {compile : NodeCompiler}

theorem document_restores (restores : compile.Restores) (reference fragment : String)
    (document : Json) : (Reference.document compile reference fragment document).Restores := by
  unfold Reference.document
  split
  · exact restores.node document
  · split
    · refine Definitions.within_restores restores _ ?_
      split
      · exact Definitions.resolve_restores restores _ _
      · split
        · exact (Compile.Restores.read _).bind fun position => .within _ (restores.node _)
        · exact .fail _
    · exact .fail _

theorem load_restores (loader : Loader) (location : Location) :
    (load loader location).Restores := by
  refine (Compile.Restores.note (by simp)).bind fun _ => ?_
  split
  · exact .pure _
  · exact .raise _

theorem external_restores (loader : Loader) (restores : compile.Restores) (reference : String) :
    (external loader compile reference).Restores := by
  refine (Compile.Restores.read _).bind fun base => (Compile.Restores.read _).bind fun cyclic => ?_
  split
  · exact .fail _
  · exact (load_restores loader _).bind fun loaded =>
      .opening _ (.within _ (document_restores restores _ _ loaded))

theorem resolve_restores (loader : Loader) (restores : compile.Restores) (reference : String) :
    (resolve loader compile reference).Restores := by
  refine (Compile.Restores.note (by simp)).bind fun _ => ?_
  split
  · split
    · exact Definitions.resolve_restores restores _ _
    · exact .fail _
  · exact external_restores loader restores reference

end Reference

namespace Node

theorem object_restores (loader : Loader) {compile : NodeCompiler} (restores : compile.Restores)
    (members : Members) : (object loader compile members).Restores := by
  unfold object
  split
  · exact Reference.resolve_restores loader restores _
  · exact .fail _
  · exact (Plan.run_restores restores _).bind fun _ =>
      Definitions.within_restores restores members (Plan.run_restores restores _)

theorem step_restores (loader : Loader) {compile : NodeCompiler} (restores : compile.Restores) :
    NodeCompiler.Restores (step loader compile) := by
  intro node state
  have whole : (step loader compile node).Restores := by
    refine (Compile.Restores.note (by simp)).bind fun _ => ?_
    split
    · exact (object_restores loader restores _).bind fun ty =>
        (Compile.Restores.note (by simp)).bind fun _ => .pure ty
    · exact .fail _
  obtain ⟨events, restored⟩ := whole state
  cases ended : step loader compile node state with
  | mk outcome after =>
    rw [ended] at restored
    refine ⟨events, restored, ?_⟩
    rintro ty rfl
    obtain ⟨_, visited, noted, ended⟩ := Compile.bind_ok ended
    cases noted
    cases node with
    | obj members =>
      obtain ⟨compiled, middle, ran, ended⟩ := Compile.bind_ok ended
      cases ended
      obtain ⟨earlier, kept⟩ := object_restores loader restores members _
      rw [ran] at kept
      have added : events ++ state.journal = .compiled middle.position (.obj members) ty ::
          (earlier ++ .visited state.position (.obj members) :: state.journal) := by
        rw [← restored.journal, ← kept.journal]
      have same : events = .compiled middle.position (.obj members) ty ::
          (earlier ++ [.visited state.position (.obj members)]) :=
        List.append_cancel_right (by simpa using added)
      rw [same, kept.position]
      exact List.mem_cons_self
    | _ => cases ended

theorem compile_restores (loader : Loader) (depth : Nat) :
    NodeCompiler.Restores (compile loader depth) := by
  induction depth with
  | zero => exact fun _ state => ⟨[], .refl state, fun _ failed => nomatch failed⟩
  | succ depth ih => exact step_restores loader ih

end Node

namespace Compilation

/-- Whenever a name of a block was resolved, it was resolved to the same type. -/
def Consistent (compilation : Compilation) : Prop :=
  ∀ block name left right, .resolved block name left ∈ compilation.events →
    .resolved block name right ∈ compilation.events → left = right

theorem start_restores (loader : Loader) (source : Source) : (start loader source).Restores := by
  cases source with
  | inline schema => exact (Node.compile_restores loader _).node schema
  | location location =>
    exact (Reference.load_restores loader location).bind fun root =>
      .opening _ (.within _ ((Node.compile_restores loader _).node root))

theorem run_consistent (loader : Loader) (source : Source) (registry : Registry) :
    (run loader source registry).Consistent := by
  intro block name left right first second
  obtain ⟨events, kept⟩ := start_restores loader source (State.start registry)
  have fresh : Agreement (State.start registry).scope (State.start registry).blocks
      (State.start registry).journal :=
    ⟨by simp [State.start, Scope.ofRegistry], by simp [State.start, Scope.ofRegistry],
      by simp [State.start], by simp [State.start], by simp [State.start]⟩
  simp only [run, List.mem_reverse] at first second
  exact (kept.agrees fresh).unique block name left right first second

end Compilation

/-- However the compilation of a node ends, the position, the open documents and the layers of the
scope are those from before it, and the slots have only moved forward; and in one compilation a slot
has one type, no matter how often it is referred to. -/
theorem compile_restores_state (loader : Loader) :
    (∀ depth node before, ∃ events,
      State.Restored (Compile.isFailure (Node.compile loader depth node before).1) events before
        (Node.compile loader depth node before).2) ∧
    ∀ source registry, (Compilation.run loader source registry).Consistent := by
  refine ⟨fun depth node before => ?_, Compilation.run_consistent loader⟩
  obtain ⟨events, kept, -⟩ := Node.compile_restores loader depth node before
  exact ⟨events, kept.toRestored⟩

end SchemaTypes
