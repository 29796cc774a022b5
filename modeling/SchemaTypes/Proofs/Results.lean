import SchemaTypes.Proofs.Distinct
import SchemaTypes.Proofs.Restoration
import SchemaTypes.Proofs.WellFormed

/-! Every type that a compilation gives is well formed, wherever its parts come from: nodes,
definitions, other documents, or the types that were known beforehand. -/
namespace SchemaTypes

/-- Types in scope are well formed, and bodies hold no key twice. -/
def Slot.Sound : Slot → Prop
  | .ready ty => ty.WellFormed
  | .pending definition => definition.node.Distinct
  | .compiling => True

def Scope.Sound (scope : Scope) : Prop := scope.Each Slot.Sound

/-- A compiler that gives well-formed types. -/
def NodeCompiler.Sound (compile : NodeCompiler) : Prop :=
  ∀ node, node.Distinct → (compile node).Gives Scope.Sound Ty.WellFormed

/-! ## Definitions and references -/

namespace Definitions

variable {compile : NodeCompiler}

theorem settle_gives (restores : compile.Restores) (sound : compile.Sound) {state after : State}
    {name reference : String} {binding : Scope.Binding} {ty : Ty} (start : state.scope.Sound)
    (found : state.scope.find? name = some binding)
    (ran : settle compile name reference binding state = (.ok ty, after)) :
    ty.WellFormed ∧ after.scope.Sound := by
  obtain ⟨hidden, layer, outer, parts, level, -, declared, -⟩ := Scope.located found
  obtain ⟨depth, block, slot⟩ := binding
  rw [parts] at start
  obtain ⟨inside, visible⟩ := start.of_append
  have fits : slot.Sound := visible layer List.mem_cons_self name slot declared
  cases slot with
  | ready type =>
    cases ran
    exact ⟨fits, by rw [parts]; exact start⟩
  | compiling => cases ran
  | pending definition =>
    cases level
    obtain ⟨middle, inner, rest, compiled, same, -, -, rfl⟩ := demand_ok restores parts ran
    have entering : (demanding state name definition layer outer).scope.Sound := visible.set trivial
    obtain ⟨wellFormed, kept⟩ := sound definition.node fits _ _ _ entering compiled
    rw [same] at kept
    exact ⟨wellFormed, inside.append (kept.set wellFormed)⟩

theorem resolve_gives (restores : compile.Restores) (sound : compile.Sound)
    (name reference : String) :
    (resolve compile name reference).Gives Scope.Sound Ty.WellFormed := by
  intro state ty after start ran
  obtain ⟨binding, middle, found, settled, rfl⟩ := resolve_settled ran
  have given := settle_gives restores sound start found settled
  exact given

theorem resolveAll_gives (restores : compile.Restores) (sound : compile.Sound)
    (entries : List Entry) : (resolveAll compile entries).Gives Scope.Sound fun _ => True := by
  induction entries with
  | nil => exact .pure trivial
  | cons entry rest ih => exact (resolve_gives restores sound _ _).bind fun _ _ => ih

theorem within_gives {α : Type} {right : α → Prop} (restores : compile.Restores)
    (sound : compile.Sound) {members : Members} (distinct : (Json.obj members).Distinct)
    {body : Compile α} (inside : body.Gives Scope.Sound right) :
    (within compile members body).Gives Scope.Sound right := by
  refine (Compile.Gives.ofExcept fun _ read => read).bind fun entries read => ?_
  split
  · exact inside
  · refine (Compile.Gives.note _).bind fun _ _ => (Compile.Gives.read _).bind fun position _ => ?_
    intro state a after start ran
    obtain ⟨inner, ended, rfl⟩ := Compile.withLayer_ok ran
    have entering : (state.entering (slots position entries)).scope.Sound := by
      refine start.cons fun slot member => ?_
      obtain ⟨entry, here, -, same⟩ := Definitions.mem_slots member
      rw [same]
      exact distinct.entry read entry here
    have given := ((resolveAll_gives restores sound entries).bind fun _ _ => inside) _ a inner
      entering ended
    exact ⟨given.1, given.2.drop 1⟩

end Definitions

namespace Reference

variable {compile : NodeCompiler} {loader : Loader}

theorem document_gives (restores : compile.Restores) (sound : compile.Sound)
    (reference fragment : String) {document : Json} (distinct : document.Distinct) :
    (Reference.document compile reference fragment document).Gives Scope.Sound Ty.WellFormed := by
  unfold Reference.document
  split
  · exact sound document distinct
  · split
    · refine Definitions.within_gives restores sound distinct ?_
      split
      · exact Definitions.resolve_gives restores sound _ _
      · split
        · next node found =>
          exact (Compile.Gives.read _).bind fun position _ =>
            (sound node (distinct.pointer? found)).within _
        · exact .fail _
    · exact .fail _

theorem load_gives (location : Location) :
    (load loader location).Gives Scope.Sound
      fun document => loader.load location = .ok document := by
  refine (Compile.Gives.note _).bind fun _ _ => ?_
  split
  · next found => exact .pure found
  · exact .raise _

theorem resolve_gives (restores : compile.Restores) (sound : compile.Sound)
    (distinct : ∀ location document, loader.load location = .ok document → document.Distinct)
    (reference : String) :
    (resolve loader compile reference).Gives Scope.Sound Ty.WellFormed := by
  refine (Compile.Gives.note _).bind fun _ _ => ?_
  split
  · split
    · exact Definitions.resolve_gives restores sound _ _
    · exact .fail _
  · refine (Compile.Gives.read _).bind fun base _ => (Compile.Gives.read _).bind fun cyclic _ => ?_
    split
    · exact .fail _
    · refine (load_gives _).bind fun loaded found => ?_
      exact .opening _ (.within _ (document_gives restores sound _ _ (distinct _ _ found)))

end Reference

/-! ## Nodes -/

namespace Node

variable {compile : NodeCompiler} {loader : Loader}

theorem object_gives (restores : compile.Restores) (sound : compile.Sound)
    (documents : ∀ location document, loader.load location = .ok document → document.Distinct)
    {members : Members} (distinct : (Json.obj members).Distinct) :
    (object loader compile members).Gives Scope.Sound Ty.WellFormed := by
  have parts : ∀ node, (∃ path, Part members path node) →
      (compile node).Gives Scope.Sound Ty.WellFormed := by
    rintro node ⟨path, part⟩
    exact sound node (distinct.part part)
  unfold object
  split
  · exact Reference.resolve_gives restores sound documents _
  · exact .fail _
  · refine (Plan.run_gives parts noteIgnored_visits).bind fun _ _ => ?_
    refine Definitions.within_gives restores sound distinct ?_
    refine (Plan.run_gives parts (body_visits.imp fun path _ part => ⟨path, part⟩)).imp
      fun ty given => ?_
    exact (composed_of_yields given).wellFormed fun properties found => (distinct.get? found).keys

theorem step_sound (restores : compile.Restores) (sound : compile.Sound)
    (documents : ∀ location document, loader.load location = .ok document → document.Distinct) :
    NodeCompiler.Sound (step loader compile) := by
  intro node distinct
  refine (Compile.Gives.note _).bind fun _ _ => ?_
  cases node with
  | obj members =>
    refine (object_gives restores sound documents distinct).bind fun ty fits => ?_
    exact (Compile.Gives.note _).bind fun _ _ => .pure fits
  | _ => exact .fail _

theorem compile_sound
    (documents : ∀ location document, loader.load location = .ok document → document.Distinct)
    (depth : Nat) : NodeCompiler.Sound (Node.compile loader depth) := by
  induction depth with
  | zero => exact fun node _ => .raise _
  | succ depth ih => exact step_sound (compile_restores loader depth) ih documents

end Node

/-- What a compilation starts from holds no key twice. -/
def Source.Distinct : Source → Prop
  | .inline schema => schema.Distinct
  | .location _ => True

theorem Compilation.start_gives {loader : Loader} {source : Source}
    (documents : ∀ location document, loader.load location = .ok document → document.Distinct)
    (distinct : source.Distinct) :
    (Compilation.start loader source).Gives Scope.Sound Ty.WellFormed := by
  cases source with
  | inline schema => exact Node.compile_sound documents _ schema distinct
  | location location =>
    refine (Reference.load_gives _).bind fun root found => ?_
    exact .opening _ (.within _ (Node.compile_sound documents _ root (documents _ _ found)))

theorem Compilation.wellFormed {loader : Loader} {source : Source} {registry : Registry} {ty : Ty}
    (documents : ∀ location document, loader.load location = .ok document → document.Distinct)
    (distinct : source.Distinct) (known : registry.WellFormed)
    (compiled : compile loader source registry = .ok ty) : ty.WellFormed := by
  have nothing : Scope.Sound [] := by simp [Scope.Sound, Scope.Each]
  have start : (State.start registry).scope.Sound := nothing.cons fun slot member => by
    obtain ⟨entry, here, rfl⟩ := List.mem_map.mp member
    exact known entry here
  exact (start_gives documents distinct (State.start registry) ty _ start
    (Prod.ext compiled rfl)).1

/-- A compiled type is well formed at every depth, and so are the types that are known once it is
among them. -/
theorem compile_wellFormed {loader : Loader} {source : Source} {registry : Registry} {ty : Ty}
    (documents : ∀ location document, loader.load location = .ok document → document.Distinct)
    (distinct : source.Distinct) (known : registry.WellFormed)
    (compiled : compile loader source registry = .ok ty) :
    ty.WellFormed ∧ ∀ name, (registry.insert name ty).WellFormed := by
  have fits := Compilation.wellFormed documents distinct known compiled
  exact ⟨fits, fun name => known.insert name fits⟩

/-- An object whose one property may be absent and must not be empty. -/
def optionalText : Json :=
  .obj [("properties", .obj [("a", .obj [("type", .str "string"), ("minLength", .ofNat 1)])]),
    ("required", .arr [])]

theorem optionalText_distinct : optionalText.Distinct := by
  have property : Json.Distinct (.obj [("type", .str "string"), ("minLength", .ofNat 1)]) :=
    .obj (by decide) (by simp [Json.Distinct.str, Json.Distinct.num, Json.ofNat])
  refine .obj (by decide) (List.forall_mem_cons.mpr ⟨?_, ?_⟩)
  · exact .obj (by decide) (List.forall_mem_singleton.mpr property)
  · exact List.forall_mem_singleton.mpr (.arr (by simp))

theorem compile_wellFormed_optionalText :
    let registry : Registry := ⟨[("known", .leaf .number)]⟩
    let ty : Ty := .record ⟨none, none, [⟨"a", .optional (.leaf .string), false, .noValue,
      ⟨some 1, none, none⟩, none, none⟩]⟩
    compile Bundle.empty.loader (.inline optionalText) registry = .ok ty ∧ ty.WellFormed ∧
      ∀ name, (registry.insert name ty).WellFormed := by
  have compiled : compile Bundle.empty.loader (.inline optionalText)
      ⟨[("known", .leaf .number)]⟩ = .ok (.record ⟨none, none, [⟨"a", .optional (.leaf .string),
        false, .noValue, ⟨some 1, none, none⟩, none, none⟩]⟩) := rfl
  refine ⟨compiled, compile_wellFormed (fun _ _ loaded => by cases loaded) ?_ ?_ compiled⟩
  · exact optionalText_distinct
  · exact List.forall_mem_singleton.mpr .leaf

/-- Of files nothing has to be asked: a text cannot hold a key twice. -/
theorem FileTree.compile_wellFormed_of_location (tree : FileTree) {location : Location}
    {registry : Registry} {ty : Ty} (known : registry.WellFormed)
    (compiled : compile tree.loader (.location location) registry = .ok ty) : ty.WellFormed := by
  have distinct : (Source.location location).Distinct := trivial
  exact Compilation.wellFormed (fun _ _ => tree.load_distinct) distinct known compiled

end SchemaTypes
