import SchemaTypes.Proofs.Settled

/-! Where the types of a block come from. Of each type in the outermost block of a schema it is known
that the body of its definition compiled to it, at a time when no more was known than is now. So when
the block is complete, all its bodies compile again, to the types that they have. -/
namespace SchemaTypes

/-- What a slot of the outermost block tells of the body that is declared in it. -/
inductive Slot.Traced (loader : Loader) (scope : Scope) (node : Json) : Slot → Prop where
  | pending {definition : Definition} : definition.node = node →
      definition.position.document = none → Traced loader scope node (.pending definition)
  | compiling : Traced loader scope node .compiling
  | ready {depth : Nat} {before after : State} {ty : Ty} :
      Node.compile loader depth node before = (.ok ty, after) →
      before.position.document = none → after.scope.Promises scope →
      Traced loader scope node (.ready ty)

/-- A block, outside of which everything is known, with slots for these definitions. -/
def Scope.Traced (loader : Loader) (declared : Members) (known scope : Scope) : Prop :=
  ∃ layer, scope = layer :: known ∧ Keyed.Aligned (Slot.Traced loader scope) declared layer.slots

/-- Good ends keep what is known of the outermost block, at any number of layers inside of it. -/
def Compile.Traces (loader : Loader) (declared : Members) (known : Scope) {α : Type}
    (body : Compile α) : Prop :=
  ∀ n state a after, body state = (.ok a, after) →
    Scope.Traced loader declared known (state.scope.drop n) →
    Scope.Traced loader declared known (after.scope.drop n)

variable {loader : Loader} {declared : Members} {known scope scope' : Scope} {node : Json}
  {state after : State} {n : Nat} {name : String} {ty : Ty}

theorem Slot.Traced.mono {slot : Slot} (traced : slot.Traced loader scope node)
    (promises : scope.Promises scope') : slot.Traced loader scope' node := by
  cases traced with
  | pending body inline => exact .pending body inline
  | compiling => exact .compiling
  | ready ran inline promised => exact .ready ran inline (promised.trans promises)

theorem Scope.Traced.aligned {layer : Layer} {rest : Scope}
    (traced : Scope.Traced loader declared known (layer :: rest)) : rest = known ∧
      Keyed.Aligned (Slot.Traced loader (layer :: rest)) declared layer.slots := by
  obtain ⟨_, same, aligned⟩ := traced
  cases same
  exact ⟨rfl, aligned⟩

/-- A slot that has no type yet may take any value that is traced. -/
theorem Scope.Traced.set {layer : Layer} {slot slot' : Slot} {node : Json}
    (traced : Scope.Traced loader declared known (layer :: known))
    (body : declared.lookup name = some node) (found : layer.slots.lookup name = some slot)
    (unready : ∀ ty, slot ≠ .ready ty)
    (fits : slot'.Traced loader (layer.set name slot' :: known) node) :
    Scope.Traced loader declared known (layer.set name slot' :: known) := by
  obtain ⟨-, aligned⟩ := traced.aligned
  have promises : Scope.Promises (layer :: known) (layer.set name slot' :: known) :=
    promises_set found unready
  have moved := aligned.imp fun _ _ related => And.intro related.1 (related.2.mono promises)
  exact ⟨_, rfl, Keyed.Aligned.insert_right moved body fits⟩

namespace Compile.Traces

variable {α β : Type} {body : Compile α}

theorem pure (a : α) : Traces loader declared known (Pure.pure a : Compile α) := by
  intro n state b after ran traced
  cases ran
  exact traced

theorem raise (error : CompileError) :
    Traces loader declared known (Compile.raise error : Compile α) :=
  fun _ _ _ _ ran => nomatch ran

theorem fail (fault : Fault) : Traces loader declared known (Compile.fail fault : Compile α) :=
  fun _ _ _ _ ran => nomatch ran

theorem note (event : Position → Event) : Traces loader declared known (Compile.note event) := by
  intro n state a after ran traced
  cases ran
  exact traced

theorem read (look : State → α) : Traces loader declared known (Compile.read look) := by
  intro n state a after ran traced
  cases ran
  exact traced

theorem bind {next : α → Compile β} (first : Traces loader declared known body)
    (rest : ∀ a, Traces loader declared known (next a)) :
    Traces loader declared known (body >>= next) := by
  intro n state b after ran traced
  obtain ⟨a, middle, firstRan, nextRan⟩ := bind_ok ran
  exact rest a n middle b after nextRan (first n state a middle firstRan traced)

theorem under (segments : List String) (inside : Traces loader declared known body) :
    Traces loader declared known (Compile.under segments body) := by
  intro n state a after ran traced
  obtain ⟨inner, ended, rfl⟩ := under_ok ran
  exact inside n _ a inner ended traced

theorem within (position : Position) (inside : Traces loader declared known body) :
    Traces loader declared known (Compile.within position body) := by
  intro n state a after ran traced
  obtain ⟨inner, ended, rfl⟩ := within_ok ran
  exact inside n _ a inner ended traced

theorem withLayer (slots : List (String × Slot)) (inside : Traces loader declared known body) :
    Traces loader declared known (Compile.withLayer slots body) := by
  intro n state a after ran traced
  obtain ⟨inner, ended, rfl⟩ := withLayer_ok ran
  have deeper := inside (n + 1) _ a inner ended traced
  rw [Nat.add_comm, ← List.drop_drop] at deeper
  exact deeper

end Compile.Traces

/-! ## Names -/

namespace Scope

/-- A scope is beside itself, at any number of its layers. -/
theorem Beside.refl {n : Nat} {scope : Scope} (enough : n ≤ scope.length) :
    Beside Eq (scope.drop n) n scope scope := by
  induction n generalizing scope with
  | zero => exact .outer
  | succ n ih =>
    cases scope with
    | nil => cases enough
    | cons layer rest =>
      exact .layer (List.forall₂_same.mpr fun _ _ => ⟨rfl, rfl⟩) (ih (Nat.le_of_succ_le_succ enough))

theorem Settled.find? {scope : Scope} {binding : Binding} (settled : scope.Settled)
    (found : scope.find? name = some binding) : ∃ ty, binding.slot = .ready ty := by
  obtain ⟨hidden, layer, outer, rfl, -, -, here, -⟩ := located found
  exact settled layer (by simp) _ (Keyed.mem_of_lookup here)

end Scope

namespace Definitions

variable {reference : String} {depth : Nat}

/-- A body of the outermost block is compiled where it was declared, which is what its slot tells. -/
theorem demand_traced (traces : ∀ node,
      Compile.Traces loader declared known (Node.compile loader depth node))
    {hidden : Scope} {layer : Layer} {definition : Definition}
    (parts : state.scope = hidden ++ layer :: known)
    (found : layer.slots.lookup name = some (.pending definition))
    (traced : Scope.Traced loader declared known (layer :: known))
    (ran : demand (Node.compile loader depth) known.length name definition state = (.ok ty, after)) :
    Scope.Traced loader declared known (after.scope.drop hidden.length) := by
  have restores := Node.compile_restores loader depth
  obtain ⟨middle, inner, rest, compiled, same, -, -, rfl⟩ := demand_ok restores parts ran
  obtain ⟨-, aligned⟩ := traced.aligned
  obtain ⟨node, body, tells⟩ := aligned.flip.lookup found
  cases tells with
  | pending same' inline =>
    subst same'
    have marked : Scope.Traced loader declared known (layer.set name .compiling :: known) :=
      traced.set body found (by simp) .compiling
    have ended := traces definition.node 0 _ ty middle compiled marked
    rw [List.drop_zero, same] at ended
    obtain ⟨rfl, -⟩ := ended.aligned
    obtain ⟨events, kept, -⟩ :=
      restores definition.node (demanding state name definition layer rest)
    rw [compiled] at kept
    have changed := kept.scope
    rw [same] at changed
    have still : inner.slots.lookup name = some .compiling :=
      (List.forall₂_cons.mp changed).1.compiling
    have promises : middle.scope.Promises (inner.set name (.ready ty) :: rest) := by
      rw [same]
      exact Scope.promises_set still (by simp)
    dsimp only
    rw [List.drop_left]
    exact ended.set body still (by simp) (.ready compiled inline promises)

/-- A name of a layer further inside is compiled with the outermost block still around it. -/
theorem settle_traced_inside (traces : ∀ node,
      Compile.Traces loader declared known (Node.compile loader depth node))
    (at' : Scope.Beside.Inside Eq (state.scope.drop n) n state.scope state.scope name)
    (traced : Scope.Traced loader declared known (state.scope.drop n))
    (ran : settle (Node.compile loader depth) name reference
      ⟨at'.outer.length, at'.layer.number, at'.slot⟩ state = (.ok ty, after)) :
    Scope.Traced loader declared known (after.scope.drop n) := by
  generalize at'.slot = slot at ran
  cases slot with
  | ready type =>
    cases ran
    exact traced
  | compiling => cases ran
  | pending definition =>
    obtain ⟨middle, inner, rest, compiled, same, -, -, rfl⟩ :=
      demand_ok (Node.compile_restores loader depth) at'.parts ran
    rw [at'.parts, at'.drop] at traced
    have ended := traces definition.node (at'.count + 1) _ ty middle compiled traced
    dsimp only
    rw [at'.drop]
    rw [same] at ended
    exact ended

/-- A name that no layer further inside has is one of the outermost block, or is known. -/
theorem settle_traced_outside (traces : ∀ node,
      Compile.Traces loader declared known (Node.compile loader depth node))
    (settled : known.Settled) {hidden : Scope} {layer : Layer} {binding : Scope.Binding}
    (parts : state.scope = hidden ++ layer :: known)
    (shadowless : ∀ inner ∈ hidden, inner.slots.lookup name = none)
    (traced : Scope.Traced loader declared known (layer :: known))
    (found : state.scope.find? name = some binding)
    (ran : settle (Node.compile loader depth) name reference binding state = (.ok ty, after)) :
    Scope.Traced loader declared known (after.scope.drop hidden.length) := by
  have unchanged : Scope.Traced loader declared known (state.scope.drop hidden.length) := by
    rw [parts, List.drop_left]
    exact traced
  rw [parts, Scope.find?_append shadowless] at found
  cases here : layer.slots.lookup name with
  | none =>
    have beyond : known.find? name = some binding :=
      (Scope.find?_append (List.forall_mem_singleton.mpr here)).symm.trans found
    obtain ⟨type, ready⟩ := settled.find? beyond
    unfold settle at ran
    rw [ready] at ran
    cases ran
    exact unchanged
  | some slot =>
    cases found.symm.trans (Scope.find?_cons_of_lookup here)
    cases slot with
    | ready type =>
      cases ran
      exact unchanged
    | compiling => cases ran
    | pending definition => exact demand_traced traces parts here traced ran

theorem settle_traced (traces : ∀ node,
      Compile.Traces loader declared known (Node.compile loader depth node))
    (settled : known.Settled) {binding : Scope.Binding}
    (traced : Scope.Traced loader declared known (state.scope.drop n))
    (found : state.scope.find? name = some binding)
    (ran : settle (Node.compile loader depth) name reference binding state = (.ok ty, after)) :
    Scope.Traced loader declared known (after.scope.drop n) := by
  obtain ⟨layer, behind, -⟩ := id traced
  have enough : n ≤ state.scope.length := by
    have count := congrArg List.length behind
    simp only [List.length_drop, List.length_cons] at count
    omega
  rcases (Scope.Beside.refl enough).search name with inside | outside
  · obtain ⟨at'⟩ := inside
    cases found.symm.trans at'.find?
    exact settle_traced_inside traces at' traced ran
  · obtain ⟨at'⟩ := outside
    have parts := at'.parts
    rw [at'.drop.symm.trans behind] at parts
    rw [behind] at traced
    rw [← at'.length]
    exact settle_traced_outside traces settled parts at'.shadowless traced found ran

theorem resolve_traces (traces : ∀ node,
      Compile.Traces loader declared known (Node.compile loader depth node))
    (settled : known.Settled) (name reference : String) :
    Compile.Traces loader declared known
      (resolve (Node.compile loader depth) name reference) := by
  intro n state ty after ran traced
  obtain ⟨binding, middle, found, ended, rfl⟩ := resolve_settled ran
  have kept := settle_traced traces settled traced found ended
  exact kept

end Definitions

/-! ## Documents and nodes -/

theorem Compile.Traces.congruence (settled : known.Settled) :
    Compile.Congruence (fun _ body _ => Compile.Traces loader declared known body) Eq loader
      loader where
  nodes := .eq
  pure := .pure
  raise := .raise
  fail := .fail
  noteLeft _ inside := .bind (.note _) fun _ => inside
  noteRight _ inside := inside
  bind := .bind
  under segments := .under segments
  part path := fun inside => .bind (.read _) fun _ => .within _ inside
  block _ := fun inside => .bind (.read _) fun _ => .withLayer _ inside
  resolve depth name reference traces :=
    Definitions.resolve_traces (fun _ => traces rfl) settled name reference
  external depth reference documents := by
    intro n state ty after ran traced
    obtain ⟨-, document, inner, -, ended, rfl⟩ := Reference.external_ok ran
    exact documents _ _ n _ ty inner ended traced

/-! ## Complete blocks -/

/-- Everything in a scope has its type, and the definitions of its block compile to theirs in it. -/
structure Scope.Harvest (loader : Loader) (entries : List Definitions.Entry) (scope : Scope) :
    Prop where
  settled : scope.Settled
  bodies : ∀ name node, (Definitions.effective entries).lookup name = some node →
    ∃ ty, scope.Knows name ty ∧ scope.Compiles loader node ty

/-- Where all around is known, nothing waits any more once all entries of a block are compiled. -/
theorem Definitions.resolveAll_settled {compile : NodeCompiler} (restores : compile.Restores)
    {entries : List Definitions.Entry} (settled : state.scope.Settled)
    (ran : resolveAll compile entries (state.declaring entries) = (.ok (), after)) :
    after.scope.Settled := by
  cases entries with
  | nil =>
    cases ran
    exact settled
  | cons first rest =>
    obtain ⟨events, kept⟩ :=
      resolveAll_restores restores (first :: rest) (state.declaring (first :: rest))
    rw [ran] at kept
    have found := resolveAll_ok restores ran
    have moved := kept.scope
    rw [State.declaring_scope (List.cons_ne_nil first rest)] at moved
    obtain ⟨layer, outer, head, tail, same⟩ := List.forall₂_cons_left_iff.mp moved
    rw [same] at found ⊢
    rw [Scope.Settles.eq_of_settled tail settled]
    refine List.forall_mem_cons.mpr ⟨?_, settled⟩
    rintro ⟨name, slot⟩ member
    have distinct : (Keyed.keys layer.slots).Nodup := by
      rw [head.slots.keys_eq]
      exact Keyed.nodup_ofPairs _
    have here := Keyed.lookup_of_mem distinct member
    obtain ⟨declared, there, -⟩ := head.slots.flip.lookup here
    obtain ⟨entry, inside, rfl, -⟩ := mem_slots (Keyed.mem_of_lookup there)
    obtain ⟨level, block, ty, stands⟩ := found entry inside
    rw [Scope.find?_cons_of_lookup here] at stands
    cases stands
    exact ⟨ty, rfl⟩

/-- When all entries of a schema are compiled, the block is complete. -/
theorem Scope.Harvest.of_resolveAll {entries : List Definitions.Entry} {depth : Nat}
    (settled : known.Settled) (some : entries ≠ []) (inline : state.Inline known)
    (ran : Definitions.resolveAll (Node.compile loader depth) entries (state.declaring entries) =
      (.ok (), after)) :
    after.scope.Harvest loader entries ∧ after.Inline after.scope := by
  have restores := Node.compile_restores loader depth
  have declared : Scope.Traced loader (Definitions.effective entries) known
      (state.declaring entries).scope := by
    rw [State.declaring_scope some, inline.scope]
    exact ⟨_, rfl, .ofPairs fun entry _ => .pending rfl inline.document⟩
  have closed : Compile.Congruence (fun _ body _ =>
      Compile.Traces loader (Definitions.effective entries) known body) Eq loader loader :=
    Compile.Traces.congruence settled
  have traces := closed.resolveAll (fun same => closed.compile depth same)
    (Definitions.matching_refl (fun _ => rfl) entries)
  obtain ⟨layer, same, aligned⟩ := traces 0 _ () after ran declared
  rw [List.drop_zero] at same aligned
  have complete : after.scope.Settled :=
    Definitions.resolveAll_settled restores (inline.scope ▸ settled) ran
  obtain ⟨events, kept⟩ :=
    Definitions.resolveAll_restores restores entries (state.declaring entries)
  rw [ran] at kept
  have ended : after.Inline after.scope :=
    ⟨by rw [kept.position, State.declaring_position, inline.document],
      by rw [kept.opened, State.declaring_opened, inline.opened], rfl⟩
  refine ⟨⟨complete, fun name node body => ?_⟩, ended⟩
  obtain ⟨slot, here, tells⟩ := aligned.lookup body
  have stands : after.scope.find? name = .some ⟨known.length, layer.number, slot⟩ := by
    rw [same]
    exact Scope.find?_cons_of_lookup here
  obtain ⟨ty, ready⟩ := complete.find? stands
  cases ready
  cases tells with
  | @ready depth before last _ compiled inside promises =>
    -- Whatever was known at the end of that run is known now, so the run goes the same way again.
    obtain ⟨again, reran, -⟩ := Node.compile_again (fun _ _ => id) compiled
      (ended.document.trans inside.symm) (by simp [ended.opened]) promises
    exact ⟨ty, ⟨_, _, stands⟩, depth, after, again, ended, reran⟩

end SchemaTypes
