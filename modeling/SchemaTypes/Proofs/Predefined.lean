import SchemaTypes.Proofs.Budget
import SchemaTypes.Proofs.Extension
import SchemaTypes.Proofs.Harvest
import SchemaTypes.Proofs.Lexical
import SchemaTypes.Proofs.Mirroring

/-! Types that are known beforehand and definitions of the schema itself are the same thing: a schema
whose definitions compile one after the other ends like the schema without them, where their types are
in the registry. -/
namespace SchemaTypes

/-- Schemas of new names that compile one after the other, each with the types of those before it,
and the registry with the types of all of them. -/
inductive Registry.Defines (loader : Loader) : Registry → Members → Registry → Prop where
  | nil {registry : Registry} : Defines loader registry [] registry
  | cons {registry extended : Registry} {name : String} {node : Json} {ty : Ty} {rest : Members} :
      registry.contains name = false → CompilesTo loader (.inline node) registry (.ok ty) →
      Defines loader (registry.insert name ty) rest extended →
      Defines loader registry ((name, node) :: rest) extended

namespace Registry

variable {registry extended : Registry} {name other : String} {ty : Ty}

@[simp] theorem get?_insert_self : (registry.insert name ty).get? name = some ty :=
  Keyed.lookup_insert_self _ _ _

theorem get?_insert_of_ne (differ : other ≠ name) :
    (registry.insert name ty).get? other = registry.get? other :=
  Keyed.lookup_insert_of_ne differ _ _

theorem contains_eq_false : registry.contains name = false ↔ registry.get? name = none := by
  simp [contains]

namespace Defines

variable {loader : Loader} {definitions : Members}

theorem keeps (defines : registry.Defines loader definitions extended)
    (known : registry.get? name = some ty) : extended.get? name = some ty := by
  induction defines with
  | nil => exact known
  | @cons registry extended other node type rest fresh _ _ ih =>
    have differ : name ≠ other := by
      rintro rfl
      rw [contains_eq_false.mp fresh] at known
      cases known
    exact ih ((get?_insert_of_ne differ).trans known)

/-- The names are new. -/
theorem fresh (defines : registry.Defines loader definitions extended) :
    ∀ entry ∈ definitions, registry.get? entry.1 = none := by
  induction defines with
  | nil => simp
  | @cons registry extended name node ty rest fresh _ _ ih =>
    refine List.forall_mem_cons.mpr ⟨contains_eq_false.mp fresh, fun entry member => ?_⟩
    have absent := ih entry member
    by_cases same : entry.1 = name
    · rw [same, get?_insert_self] at absent
      cases absent
    · exact (get?_insert_of_ne same).symm.trans absent

/-- A name of the extended registry is known beforehand or defined. -/
theorem get?_eq_none (defines : registry.Defines loader definitions extended) :
    extended.get? name = none ↔
      registry.get? name = none ∧ ∀ entry ∈ definitions, entry.1 ≠ name := by
  induction defines with
  | nil => simp
  | @cons registry extended other node ty rest fresh _ _ ih =>
    rw [ih, List.forall_mem_cons]
    by_cases same : name = other
    · subst same
      simp
    · rw [get?_insert_of_ne same]
      exact ⟨fun ⟨absent, others⟩ => ⟨absent, Ne.symm same, others⟩,
        fun ⟨absent, _, others⟩ => ⟨absent, others⟩⟩

theorem nodup (defines : registry.Defines loader definitions extended) :
    (Keyed.keys definitions).Nodup := by
  induction defines with
  | nil => exact List.nodup_nil
  | @cons registry extended name node ty rest fresh _ others ih =>
    refine List.nodup_cons.mpr ⟨fun member => ?_, ih⟩
    obtain ⟨entry, inside, same⟩ := List.mem_map.mp member
    have absent := others.fresh entry inside
    rw [same, get?_insert_self] at absent
    cases absent

end Defines

end Registry

/-! ## The harvest -/

/-- In the innermost layer some definitions wait to be compiled; all names of a registry are known,
and there are no other names than those of the registry in the end. -/
structure State.Awaits (registry extended : Registry) (pending : Members) (layer : Layer)
    (outer : Scope) (state : State) : Prop where
  document : state.position.document = none
  opened : state.opened = []
  scope : state.scope = layer :: outer
  pending : ∀ entry ∈ pending, ∃ position : Position, position.document = none ∧
    layer.slots.lookup entry.1 = some (.pending ⟨entry.2, position⟩)
  known : ∀ name ty, registry.get? name = some ty → state.scope.Knows name ty
  unknown : ∀ name, extended.get? name = none → state.scope.find? name = none

variable {loader : Loader} {registry extended : Registry} {name reference : String} {node : Json}
  {ty : Ty} {rest definitions : Members} {layer : Layer} {outer : Scope} {state start : State}
  {depth : Nat}

/-- When the slot of the first definition that waits has its type, the others wait. -/
theorem State.Awaits.fill
    (awaits : state.Awaits registry extended ((name, node) :: rest) layer outer)
    (others : ∀ entry ∈ rest, entry.1 ≠ name) (defined : extended.get? name ≠ none) {after : State}
    (document : after.position.document = none) (opened : after.opened = [])
    (scope : after.scope = (layer.set name .compiling).set name (.ready ty) :: outer) :
    after.Awaits (registry.insert name ty) extended rest
      ((layer.set name .compiling).set name (.ready ty)) outer where
  document := document
  opened := opened
  scope := scope
  pending := by
    intro entry member
    obtain ⟨place, outside, declared⟩ :=
      awaits.pending entry (List.mem_cons_of_mem _ member)
    refine ⟨place, outside, ?_⟩
    have differ := others entry member
    exact (Keyed.lookup_insert_of_ne differ _ _).trans
      ((Keyed.lookup_insert_of_ne differ _ _).trans declared)
  known := by
    intro other type known
    rw [scope]
    by_cases same : other = name
    · subst same
      rw [Registry.get?_insert_self] at known
      cases known
      exact Scope.knows_cons_of_lookup (Keyed.lookup_insert_self _ _ _)
    · obtain ⟨level, block, stands⟩ :=
        awaits.known other type ((Registry.get?_insert_of_ne same).symm.trans known)
      rw [awaits.scope] at stands
      exact ⟨level, block, (Scope.find?_set_of_ne same _).trans
        ((Scope.find?_set_of_ne same _).trans stands)⟩
  unknown := by
    intro other absent
    have differ : other ≠ name := by
      rintro rfl
      exact defined absent
    have missing := awaits.unknown other absent
    rw [awaits.scope] at missing
    rw [scope]
    exact (Scope.find?_set_of_ne differ _).trans ((Scope.find?_set_of_ne differ _).trans missing)

namespace Definitions

/-- A definition that compiles where the types of those before it are known compiles in its block. -/
theorem resolve_awaited (awaits : state.Awaits registry extended ((name, node) :: rest) layer outer)
    (ran : Node.compile loader depth node (State.start registry) = (.ok ty, start))
    (others : ∀ entry ∈ rest, entry.1 ≠ name) (defined : extended.get? name ≠ none) :
    ∃ layer' after, resolve (Node.compile loader depth) name reference state = (.ok ty, after) ∧
      after.position = state.position ∧
      after.Awaits (registry.insert name ty) extended rest layer' outer := by
  obtain ⟨position, inline, declared⟩ := awaits.pending _ List.mem_cons_self
  have whole : state.scope = [] ++ layer :: outer := awaits.scope
  have found : state.scope.find? name =
      some ⟨outer.length, layer.number, .pending ⟨node, position⟩⟩ := by
    rw [awaits.scope]
    exact Scope.find?_cons_of_lookup declared
  have unchanged := Node.compile_scope loader depth node
    (show (State.start registry).scope = .ofRegistry registry from rfl)
  rw [ran] at unchanged
  -- In the block the body sees all that the registry has. It sees its own name as well, and those
  -- behind it, but what compiles without a name does not look it up.
  have promises :
      Scope.Promises start.scope (demanding state name ⟨node, position⟩ layer outer).scope := by
    intro other type known
    rw [unchanged] at known
    have stands := awaits.known other type (Scope.knows_ofRegistry.mp known)
    rw [awaits.scope] at stands
    exact Scope.promises_set declared (by simp) other type stands
  obtain ⟨middle, again, same⟩ : ∃ middle, Node.compile loader depth node
        (demanding state name ⟨node, position⟩ layer outer) = (.ok ty, middle) ∧
      middle.scope = layer.set name .compiling :: outer :=
    Node.compile_again (fun _ _ => id) ran inline (by simp [demanding, awaits.opened]) promises
  obtain ⟨inner, outside, parts, demanded⟩ :=
    demand_after ⟨node, position⟩ (Node.compile_restores loader depth) whole again
  obtain ⟨rfl, rfl⟩ := List.cons.inj (same.symm.trans parts)
  obtain ⟨events, kept, -⟩ := Node.compile_restores loader depth node
    (demanding state name ⟨node, position⟩ layer outer)
  rw [again] at kept
  rw [resolve_of_some found]
  have settled : settle (Node.compile loader depth) name reference
      ⟨outer.length, layer.number, .pending ⟨node, position⟩⟩ state = _ := demanded
  exact ⟨(layer.set name .compiling).set name (.ready ty), _, Compile.bind_of_ok settled, rfl,
    awaits.fill others defined awaits.document (kept.opened.trans awaits.opened) rfl⟩

/-- At every depth that is large enough, all definitions that wait come to be known. -/
theorem resolveAll_awaited (keyword : String)
    (defines : registry.Defines loader definitions extended) :
    ∃ enough, ∀ depth ≥ enough, ∀ layer state,
      state.Awaits registry extended definitions layer outer →
      ∃ layer' after, resolveAll (Node.compile loader depth) (listed keyword definitions) state =
          (.ok (), after) ∧
        after.position = state.position ∧ after.Awaits extended extended [] layer' outer := by
  induction defines with
  | nil => exact ⟨0, fun _ _ layer state awaits => ⟨layer, state, rfl, rfl, awaits⟩⟩
  | @cons registry extended name node ty rest fresh compiles others ih =>
    obtain ⟨enough, ran⟩ := ih
    obtain ⟨least, start, first⟩ := CompilesTo.inline_ok_iff.mp compiles
    refine ⟨max enough least, fun depth deep layer state awaits => ?_⟩
    have here : Node.compile loader depth node (State.start registry) = (.ok ty, start) :=
      Node.compile_at_least first (by omega)
    have differ : ∀ entry ∈ rest, entry.1 ≠ name := by
      intro entry member same
      have absent := others.fresh entry member
      rw [same, Registry.get?_insert_self] at absent
      cases absent
    have defined : extended.get? name ≠ none := by
      rw [others.keeps Registry.get?_insert_self]
      simp
    obtain ⟨layer', middle, resolved, place, waits⟩ := resolve_awaited awaits here differ defined
    obtain ⟨layer'', after, rested, place', known⟩ :=
      ran depth (by omega) layer' middle waits
    exact ⟨layer'', after, (Compile.bind_of_ok resolved).trans rested, place'.trans place, known⟩

end Definitions

/-! ## The schema -/

section Schema

variable {loader : Loader} {registry extended : Registry} {members members' definitions : Members}

/-- When nothing waits any more, the scope knows what the registry in the end does. -/
theorem State.Awaits.agrees {layer : Layer} {outer : Scope} {state : State}
    (awaits : state.Awaits extended extended [] layer outer) :
    Scope.Agrees (.ofRegistry extended) state.scope := by
  intro name
  cases known : extended.get? name with
  | none => exact .inl ⟨by simp [known], awaits.unknown name known⟩
  | some ty => exact .inr ⟨ty, Scope.knows_ofRegistry.mpr known, awaits.known name ty known⟩

/-- A name that is not defined is not in the block of definitions. -/
theorem Definitions.lookup_slots_none {position : Position} {keyword name : String}
    (other : ∀ entry ∈ definitions, entry.1 ≠ name) :
    (slots position (listed keyword definitions)).lookup name = none := by
  cases found : (slots position (listed keyword definitions)).lookup name with
  | none => rfl
  | some slot =>
    obtain ⟨entry, member, same, -⟩ := mem_slots (Keyed.mem_of_lookup found)
    obtain ⟨definition, inside, rfl⟩ := List.mem_map.mp member
    exact (other definition inside same).elim

theorem Definitions.lookup_slots {position : Position} {keyword : String}
    (distinct : (Keyed.keys definitions).Nodup) {definition : String × Json}
    (member : definition ∈ definitions) :
    (slots position (listed keyword definitions)).lookup definition.1 = some (.pending
      ⟨definition.2, { position with path := position.path ++ [keyword, definition.1] }⟩) := by
  have keys : Keyed.keys ((listed keyword definitions).map fun entry =>
      (entry.name, declare position entry)) = Keyed.keys definitions := by
    simp [listed, Keyed.keys, Function.comp_def]
  unfold slots
  rw [Keyed.ofPairs_of_nodup (keys ▸ distinct)]
  refine Keyed.lookup_of_mem (keys ▸ distinct) ?_
  exact List.mem_map.mpr ⟨⟨keyword, definition.1, definition.2⟩,
    List.mem_map.mpr ⟨definition, member, rfl⟩, rfl⟩

/-- The definitions of a schema wait to be compiled when they come into scope. -/
theorem State.Awaits.declaring (defines : registry.Defines loader definitions extended)
    (keyword : String) (journal : List Event) :
    ∃ layer outer, State.Awaits registry extended definitions layer outer
      (State.declaring { State.start registry with journal }
        (Definitions.listed keyword definitions)) := by
  cases definitions with
  | nil =>
    refine ⟨_, [], rfl, rfl, rfl, by simp, fun name ty known => ?_, fun name absent => ?_⟩
    · exact Scope.knows_ofRegistry.mpr known
    · have unknown := (defines.get?_eq_none.mp absent).1
      simp [Definitions.listed, State.start, unknown]
  | cons definition rest =>
    have outside (name : String) (other : ∀ entry ∈ definition :: rest, entry.1 ≠ name) :
        Scope.find? (⟨1, Definitions.slots ⟨none, []⟩
          (Definitions.listed keyword (definition :: rest))⟩ :: Scope.ofRegistry registry) name =
          (Scope.ofRegistry registry).find? name :=
      Scope.find?_append (List.forall_mem_singleton.mpr (Definitions.lookup_slots_none other))
    refine ⟨_, _, rfl, rfl, rfl, fun entry member => ?_, fun name ty known => ?_,
      fun name absent => ?_⟩
    · exact ⟨_, rfl, Definitions.lookup_slots defines.nodup member⟩
    · have other : ∀ entry ∈ definition :: rest, entry.1 ≠ name := by
        rintro entry member rfl
        rw [defines.fresh entry member] at known
        cases known
      obtain ⟨level, block, found⟩ := Scope.knows_ofRegistry.mpr known
      exact ⟨level, block, (outside name other).trans found⟩
    · obtain ⟨unknown, other⟩ := defines.get?_eq_none.mp absent
      refine (outside name other).trans ?_
      simp [unknown]

/-- At every depth that is large enough, the schema with the definitions and the schema without them
end alike. -/
theorem compile_fst_defined (plain : members.get? "$ref" = none)
    (noDefinitions : members.get? "definitions" = none) (noDefs : members.get? "$defs" = none)
    (added : members'.get? "definitions" = some (.obj definitions))
    (same : ∀ keyword ≠ "definitions", members'.get? keyword = members.get? keyword)
    (defines : registry.Defines loader definitions extended) :
    ∃ enough, ∀ depth ≥ enough,
      (Node.compile loader depth (.obj members') (State.start registry)).1 =
        (Node.compile loader depth (.obj members) (State.start extended)).1 := by
  have plain' : members'.get? "$ref" = none := (same _ (by decide)).trans plain
  have noDefs' : members'.get? "$defs" = none := (same _ (by decide)).trans noDefs
  have read : Definitions.entries members = .ok [] :=
    Definitions.entries_of_bare noDefinitions noDefs
  have read' : Definitions.entries members' =
      .ok (Definitions.listed "definitions" definitions ++ []) :=
    Definitions.entries_of_blocks (by rw [Definitions.block, added]; rfl)
      (by rw [Definitions.block, noDefs'])
  rw [List.append_nil] at read'
  obtain ⟨journal, left⟩ := Node.compile_fst plain read (State.start extended)
  obtain ⟨journal', right⟩ := Node.compile_fst plain' read' (State.start registry)
  obtain ⟨layer, outer, awaits⟩ := State.Awaits.declaring defines "definitions" journal'
  obtain ⟨enough, ran⟩ := Definitions.resolveAll_awaited "definitions" defines
  refine ⟨enough + 1, fun depth deep => ?_⟩
  obtain ⟨depth, rfl⟩ : ∃ less, depth = less + 1 := ⟨depth - 1, by omega⟩
  obtain ⟨layer', after, resolved, place, known⟩ := ran depth (by omega) layer _ awaits
  have mirrors : State.Mirrors Eq [] (.ofRegistry extended) after.scope 0
      { State.start extended with journal } after :=
    ⟨place.trans State.declaring_position, known.opened, List.nil_subset _, .outer, rfl⟩
  have closed := Compile.Mirrors.congruence .eq known.agrees (.refl loader)
  have alike : Node.Alike Eq members members' :=
    .of_definitions (fun _ => rfl) fun keyword other =>
      same keyword (by rintro rfl; exact other (by decide))
  have ended := closed.run (fun same => closed.compile depth same) (alike.body fun _ => rfl)
    0 _ _ mirrors
  rw [left, right, Node.harvested, Compile.bind_of_ok resolved]
  exact ended.outcome

/-- Definitions of the schema itself and types that are known beforehand agree: with a block of
definitions that compile one after the other, a schema ends like it does without the block where
their types are in the registry, to an equal type or with the same error. -/
theorem compile_defined_iff_known (plain : members.get? "$ref" = none)
    (noDefinitions : members.get? "definitions" = none) (noDefs : members.get? "$defs" = none)
    (added : members'.get? "definitions" = some (.obj definitions))
    (same : ∀ keyword ≠ "definitions", members'.get? keyword = members.get? keyword)
    (defines : registry.Defines loader definitions extended)
    (outcome : Except CompileError Ty) :
    CompilesTo loader (.inline (.obj members)) extended outcome ↔
      CompilesTo loader (.inline (.obj members')) registry outcome := by
  obtain ⟨enough, alike⟩ :=
    compile_fst_defined plain noDefinitions noDefs added same defines
  exact CompilesTo.inline_congr fun depth deep => (alike depth deep).symm

/-- A list of texts by way of a definition that refers to the one before it. -/
def aliasedTexts : Members :=
  [("type", .str "array"), ("items", .obj [("$ref", .str "#/definitions/alias")])]

def aliasDefinitions : Members :=
  [("text", .obj [("type", .str "string")]), ("alias", .obj [("$ref", .str "#/$defs/text")])]

theorem compile_defined_iff_known_aliasedTexts :
    let registry : Registry := ⟨[("count", .leaf .number)]⟩
    let extended : Registry :=
      ⟨[("count", .leaf .number), ("text", .leaf .string), ("alias", .leaf .string)]⟩
    registry.Defines Bundle.empty.loader aliasDefinitions extended ∧
      CompilesTo Bundle.empty.loader (.inline (.obj aliasedTexts)) extended
        (.ok (.list (.leaf .string))) ∧
      CompilesTo Bundle.empty.loader
        (.inline (.obj (("definitions", .obj aliasDefinitions) :: aliasedTexts))) registry
        (.ok (.list (.leaf .string))) := by
  intro registry extended
  have defines : registry.Defines Bundle.empty.loader aliasDefinitions extended :=
    .cons rfl (Bundle.compilesTo_iff.mpr ((Ty.Told.leaf .string).ok (by decide +kernel)))
      (.cons rfl (Bundle.compilesTo_iff.mpr ((Ty.Told.leaf .string).ok (by decide +kernel))) .nil)
  have same : ∀ keyword ≠ "definitions",
      Members.get? (("definitions", .obj aliasDefinitions) :: aliasedTexts) keyword =
        Members.get? aliasedTexts keyword := by
    intro keyword differ
    exact (Keyed.lookup_cons _ _ _).trans (if_neg differ)
  have known : CompilesTo Bundle.empty.loader (.inline (.obj aliasedTexts)) extended
      (.ok (.list (.leaf .string))) :=
    Bundle.compilesTo_iff.mpr ((Ty.Told.leaf .string).list.ok (by decide +kernel))
  exact ⟨defines, known, (compile_defined_iff_known rfl rfl rfl rfl same defines _).mp known⟩

end Schema

end SchemaTypes
