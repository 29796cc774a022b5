import SchemaTypes.Proofs.Origin

/-! References are transparent: where a reference to a definition of the root stands, the body of that
definition may stand as well. This holds at every place below the root that no other block of
definitions lies around. -/
namespace SchemaTypes

/-- One value in the place of another, which is for items, an alternative or a member that holds
together with others. The place is any number of nodes down, none of which has definitions. -/
inductive Members.Swapped (old new : Json) : Members → Members → Prop where
  | items {members : Members} : members.get? "items" = some old →
      Swapped old new members (Keyed.insert members "items" new)
  | listed {members : Members} {keyword : String} {nodes : List Json} {i : Nat} :
      keyword ∈ ["oneOf", "allOf"] → members.get? keyword = some (.arr nodes) →
      nodes[i]? = some old →
      Swapped old new members (Keyed.insert members keyword (.arr (nodes.set i new)))
  | underItems {members inner inner' : Members} : members.get? "items" = some (.obj inner) →
      (∀ keyword ∈ Definitions.keywords, inner.get? keyword = none) →
      Swapped old new inner inner' →
      Swapped old new members (Keyed.insert members "items" (.obj inner'))
  | underListed {members inner inner' : Members} {keyword : String} {nodes : List Json} {i : Nat} :
      keyword ∈ Node.combinators → members.get? keyword = some (.arr nodes) →
      nodes[i]? = some (.obj inner) →
      (∀ keyword ∈ Definitions.keywords, inner.get? keyword = none) →
      Swapped old new inner inner' →
      Swapped old new members (Keyed.insert members keyword (.arr (nodes.set i (.obj inner'))))
  | underProperty {members inner inner' properties : Members} {key : String} :
      members.get? "properties" = some (.obj properties) →
      properties.lookup key = some (.obj inner) →
      (∀ keyword ∈ Definitions.keywords, inner.get? keyword = none) →
      Swapped old new inner inner' →
      Swapped old new members
        (Keyed.insert members "properties" (.obj (Keyed.insert properties key (.obj inner'))))
  /-- Somewhere below a keyword that nothing is compiled under. -/
  | aside {members : Members} {keyword : String} {value value' : Json} :
      keyword ∉ Node.readKeywords → members.get? keyword = some value →
      Swapped old new members (Keyed.insert members keyword value')

namespace Members.Swapped

variable {old new : Json} {members members' : Members} {loader : Loader} {scope : Scope} {ty : Ty}

theorem get? (swapped : Swapped old new members members') {keyword : String}
    (fixed : keyword ∈ "$ref" :: Definitions.keywords ++ Object.fieldKeywords) :
    members'.get? keyword = members.get? keyword := by
  have differs : ∀ keyword ∈ "$ref" :: Definitions.keywords ++ Object.fieldKeywords,
      keyword ∈ Node.readKeywords ∧ keyword ≠ "items" ∧ keyword ≠ "properties" ∧
        ∀ other ∈ Node.combinators, keyword ≠ other := by decide
  obtain ⟨read, items, properties, combinator⟩ := differs keyword fixed
  cases swapped with
  | items | underItems => exact Keyed.lookup_insert_of_ne items _ _
  | underProperty => exact Keyed.lookup_insert_of_ne properties _ _
  | underListed listed => exact Keyed.lookup_insert_of_ne (combinator _ listed) _ _
  | listed listed =>
    have combines : ∀ other ∈ ["oneOf", "allOf"], other ∈ Node.combinators := by decide
    exact Keyed.lookup_insert_of_ne (combinator _ (combines _ listed)) _ _
  | aside unread =>
    refine Keyed.lookup_insert_of_ne ?_ _ _
    rintro rfl
    exact unread read

/-- Nodes without definitions compile to the same when their bodies give the same. -/
theorem compiles_iff (settled : scope.Settled) (swapped : Swapped old new members members')
    (bare : ∀ keyword ∈ Definitions.keywords, members.get? keyword = none)
    (bodies : ∀ ty, (Node.body members).Yields (scope.Compiles loader) ty ↔
      (Node.body members').Yields (scope.Compiles loader) ty) (ty : Ty) :
    scope.Compiles loader (.obj members) ty ↔ scope.Compiles loader (.obj members') ty := by
  have reference : members'.get? "$ref" = members.get? "$ref" := swapped.get? (by decide)
  have definitions : members'.get? "definitions" = members.get? "definitions" :=
    swapped.get? (by decide)
  have defs : members'.get? "$defs" = members.get? "$defs" := swapped.get? (by decide)
  have read := Definitions.entries_of_bare (bare "definitions" (by decide)) (bare "$defs" (by decide))
  have read' := Definitions.entries_of_bare (definitions.trans (bare _ (by decide)))
    (defs.trans (bare _ (by decide)))
  cases named : members.get? "$ref" with
  | none =>
    rw [Scope.compiles_iff_yields settled named read,
      Scope.compiles_iff_yields settled (reference.trans named) read']
    exact bodies ty
  | some value =>
    constructor
    · exact .of_same_reference settled named (reference.trans named)
    · exact .of_same_reference settled (reference.trans named) named

/-- Bodies give the same when the values swapped in them compile to the same. -/
theorem yields_iff (settled : scope.Settled)
    (hole : ∀ ty, scope.Compiles loader old ty ↔ scope.Compiles loader new ty)
    (swapped : Swapped old new members members') (ty : Ty) :
    (Node.body members).Yields (scope.Compiles loader) ty ↔
      (Node.body members').Yields (scope.Compiles loader) ty := by
  have reflexive : ∀ node ty, scope.Compiles loader node ty ↔ scope.Compiles loader node ty :=
    fun _ _ => Iff.rfl
  have bodies {members members' : Members} (alike : Node.Alike (fun node node' =>
      ∀ ty, scope.Compiles loader node ty ↔ scope.Compiles loader node' ty) members members')
      (ty : Ty) : (Node.body members).Yields (scope.Compiles loader) ty ↔
        (Node.body members').Yields (scope.Compiles loader) ty :=
    (alike.body reflexive).yields fun _ _ ty same => same ty
  refine bodies ?_ ty
  clear ty
  induction swapped with
  | items held => exact .of_items reflexive held hole
  | listed listed held found =>
    have combines : ∀ keyword ∈ ["oneOf", "allOf"], keyword ∈ Node.combinators := by decide
    exact .of_listed reflexive (combines _ listed) held found hole
  | underItems held bare inner ih =>
    exact .of_items reflexive held (inner.compiles_iff settled bare (bodies ih))
  | underListed listed held found bare inner ih =>
    exact .of_listed reflexive listed held found (inner.compiles_iff settled bare (bodies ih))
  | underProperty held found bare inner ih =>
    exact .of_property reflexive held found ⟨inner.compiles_iff settled bare (bodies ih),
      fun keyword listed => inner.get? (List.mem_append_right _ (List.mem_append_left _ listed))⟩
  | aside unread held => exact .of_aside reflexive unread held

end Members.Swapped

/-! ## Transparency -/

section Schema

variable {loader : Loader} {registry : Registry} {members members' : Members}
  {entries : List Definitions.Entry} {ty : Ty}

/-- Where all around is known, the harvest does not depend on the notes that were taken before and
comes out the same with fewer documents open, at every depth that is as large. -/
theorem Definitions.resolveAll_again {depth : Nat} {state middle : State}
    (resolved : resolveAll (Node.compile loader depth) entries (state.declaring entries) =
      (.ok (), middle))
    (settled : state.scope.Settled) (state' : State) (scope : state'.scope = state.scope)
    (document : state'.position.document = state.position.document)
    (opened : ∀ key ∈ state'.opened, key ∈ state.opened) :
    ∃ middle', middle.scope.Promises middle'.scope ∧ ∀ extra,
      resolveAll (Node.compile loader (depth + extra)) entries (state'.declaring entries) =
        (.ok (), middle') := by
  cases entries with
  | nil =>
    cases resolved
    exact ⟨state', scope ▸ .refl _, fun _ => rfl⟩
  | cons first rest =>
    have some := List.cons_ne_nil first rest
    have closed : Compile.Congruence (fun _ => Compile.Follows state.scope) Eq loader loader :=
      Compile.Follows.congruence (fun _ _ => id) _
    have allows : State.Allows state.scope 1 (state.declaring (first :: rest))
        (state'.declaring (first :: rest)) := by
      refine ⟨by simp [document], by simpa using opened, ?_⟩
      rw [State.declaring_scope some, State.declaring_scope some, scope]
      refine .layer (Keyed.Aligned.ofPairs fun entry _ => ?_) .outer
      exact .pending rfl document
    have promises : Scope.Promises (middle.scope.drop 1) state.scope := by
      obtain ⟨events, kept⟩ := resolveAll_restores (Node.compile_restores loader depth)
        (first :: rest) (state.declaring (first :: rest))
      rw [resolved] at kept
      have changed := List.forall₂_drop 1 kept.scope
      rw [State.declaring_scope some] at changed
      rw [Scope.Settles.eq_of_settled changed settled]
      exact .refl _
    have follows := closed.resolveAll (fun same => closed.compile depth same)
      (matching_refl (fun _ => rfl) (first :: rest))
    obtain ⟨middle', again, beside⟩ := follows.ends 1 _ _ () middle allows resolved promises
    refine ⟨middle', beside.promises promises, fun extra => ?_⟩
    rcases resolveAll_refines (Node.compile_refines_add loader depth extra) (first :: rest)
      (state'.declaring (first :: rest)) with stopped | same
    · rw [again] at stopped
      cases stopped
    · exact same.trans again

/-- Schemas with the same definitions compile to the same when their bodies give the same once the
block is complete. -/
theorem CompilesTo.of_bodies (plain : members.get? "$ref" = none)
    (plain' : members'.get? "$ref" = none) (read : Definitions.entries members = .ok entries)
    (read' : Definitions.entries members' = .ok entries) (some : entries ≠ [])
    (bodies : ∀ scope : Scope, scope.Harvest loader entries →
      (Node.body members).Yields (scope.Compiles loader) ty →
      (Node.body members').Yields (scope.Compiles loader) ty)
    (found : CompilesTo loader (.inline (.obj members)) registry (.ok ty)) :
    CompilesTo loader (.inline (.obj members')) registry (.ok ty) := by
  have known := Scope.settled_ofRegistry registry
  have start (journal : List Event) :
      State.Inline (.ofRegistry registry) { State.start registry with journal } := ⟨rfl, rfl, rfl⟩
  obtain ⟨depth, after, ran⟩ := CompilesTo.inline_ok_iff.mp found
  cases depth with
  | zero => cases ran
  | succ depth =>
    obtain ⟨journal, same⟩ := Node.compile_fst plain read (State.start registry)
    obtain ⟨journal', same'⟩ := Node.compile_fst plain' read' (State.start registry)
    obtain ⟨last, harvested⟩ :=
      Compile.ok_of_fst ((same loader depth).symm.trans (congrArg Prod.fst ran))
    obtain ⟨_, middle, resolved, body⟩ := Compile.bind_ok harvested
    obtain ⟨harvest, inline⟩ := Scope.Harvest.of_resolveAll known some (start journal) resolved
    have given := bodies middle.scope harvest (Plan.yields_of_run harvest.settled inline body).1
    -- The notes before the two harvests differ. What the bodies give is told by what the names stand
    -- for, which is the same behind both.
    obtain ⟨middle', promises, again⟩ := Definitions.resolveAll_again resolved known
      { State.start registry with journal := journal' } rfl rfl fun _ => id
    obtain ⟨harvest', inline'⟩ := Scope.Harvest.of_resolveAll known some (start journal') (again 0)
    have given' : (Node.body members').Yields (middle'.scope.Compiles loader) ty :=
      given.imp fun _ _ compiles => compiles.mono harvest.settled promises
    obtain ⟨least, runs⟩ := Plan.run_of_yields harvest'.settled given'
    obtain ⟨last', body', -⟩ := runs (depth + least) (by omega) middle' inline'
    have whole : Node.harvested (Node.compile loader (depth + least)) entries members'
        (State.declaring { State.start registry with journal := journal' } entries) =
          (.ok ty, last') := (Compile.bind_of_ok (again least)).trans body'
    obtain ⟨after', ran'⟩ :=
      Compile.ok_of_fst ((same' loader (depth + least)).trans (congrArg Prod.fst whole))
    exact CompilesTo.inline_ok_iff.mpr ⟨depth + least + 1, after', ran'⟩

/-- A reference to a definition of the root and the body of that definition are interchangeable. -/
theorem compile_reference_iff_body {name : String} {body : Json}
    (plain : members.get? "$ref" = none) (read : Definitions.entries members = .ok entries)
    (declared : (Definitions.effective entries).lookup name = some body) (full : name ≠ "")
    (swapped : Members.Swapped
      (.obj [("$ref", .str ("#/definitions/" ++ Pointer.escape name))]) body members members') :
    CompilesTo loader (.inline (.obj members)) registry (.ok ty) ↔
      CompilesTo loader (.inline (.obj members')) registry (.ok ty) := by
  have plain' : members'.get? "$ref" = none := (swapped.get? (by decide)).trans plain
  have read' : Definitions.entries members' = .ok entries := by
    have fixed : ∀ keyword ∈ Definitions.keywords,
        keyword ∈ "$ref" :: Definitions.keywords ++ Object.fieldKeywords := by decide
    rw [← read]
    exact Definitions.entries_congr fun keyword listed => swapped.get? (fixed keyword listed)
  have some : entries ≠ [] := by
    rintro rfl
    cases declared
  have names : Reference.Names ("#/" ++ "definitions" ++ "/" ++ Pointer.escape name) name :=
    Reference.names_escape (by decide) full
  have hole (scope : Scope) (harvest : scope.Harvest loader entries) (ty : Ty) :
      scope.Compiles loader (.obj [("$ref", .str ("#/definitions/" ++ Pointer.escape name))]) ty ↔
        scope.Compiles loader body ty := by
    obtain ⟨type, known, compiles⟩ := harvest.bodies name body declared
    rw [Scope.compiles_reference_iff harvest.settled rfl names]
    constructor
    · intro stands
      exact known.unique stands ▸ compiles
    · intro other
      exact compiles.unique harvest.settled other ▸ known
  constructor
  · exact .of_bodies plain plain' read read' some fun scope harvest =>
      (swapped.yields_iff harvest.settled (hole scope harvest) ty).mp
  · exact .of_bodies plain' plain read' read some fun scope harvest =>
      (swapped.yields_iff harvest.settled (hole scope harvest) ty).mpr

/-- Lists of lists, with a name that has a body in both blocks. -/
def measuredLists (item : Json) : Members :=
  [("definitions", .obj [("in/out", .obj [("type", .str "string")])]),
    ("$defs", .obj [("in/out", .obj [("type", .str "number")])]), ("type", .str "array"),
    ("items", .obj [("type", .str "array"), ("items", item)])]

theorem compile_reference_iff_body_measuredLists :
    CompilesTo Bundle.empty.loader (.inline (.obj (measuredLists
        (.obj [("$ref", .str "#/definitions/in~1out")])))) .empty
      (.ok (.list (.list (.leaf .number)))) ∧
    CompilesTo Bundle.empty.loader (.inline (.obj (measuredLists
        (.obj [("type", .str "number")])))) .empty (.ok (.list (.list (.leaf .number)))) := by
  have escaped : "#/definitions/in~1out" = "#/definitions/" ++ Pointer.escape "in/out" := by decide
  have compiled : CompilesTo Bundle.empty.loader (.inline (.obj (measuredLists
      (.obj [("$ref", .str "#/definitions/in~1out")])))) .empty
      (.ok (.list (.list (.leaf .number)))) :=
    Bundle.compilesTo_iff.mpr ((Ty.Told.leaf .number).list.list.ok (by decide +kernel))
  have bare (item : Json) : ∀ keyword ∈ Definitions.keywords,
      Members.get? [("type", .str "array"), ("items", item)] keyword = none :=
    List.forall_mem_cons.mpr ⟨rfl, List.forall_mem_singleton.mpr rfl⟩
  refine ⟨compiled, ?_⟩
  rw [escaped] at compiled
  exact (compile_reference_iff_body rfl rfl rfl (by decide)
    (.underItems rfl (bare _) (.items rfl))).mp compiled

end Schema

end SchemaTypes
