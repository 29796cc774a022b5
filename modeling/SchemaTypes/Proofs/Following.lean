import SchemaTypes.Proofs.Counterpart

/-! A run that ends well is followed by other runs: from any state that allows at least as much,
where bodies of the outer layers have the types that the first run gave them. Fewer open documents,
more documents to load and more names never get in the way. -/
namespace SchemaTypes

/-- Slots that hold the same type, or the same body in the same document. -/
inductive Slot.Like : Slot → Slot → Prop where
  | ready {ty : Ty} : Like (.ready ty) (.ready ty)
  | pending {left right : Definition} : right.node = left.node →
      right.position.document = left.position.document → Like (.pending left) (.pending right)
  | compiling : Like .compiling .compiling

/-- What is known on the one side is known on the other. -/
theorem Scope.Beside.promises {base scope scope' : Scope} {n : Nat}
    (beside : Beside Slot.Like base n scope scope') (outside : Promises (scope.drop n) base) :
    scope.Promises scope' := by
  rintro name ty ⟨level, block, found⟩
  rcases beside.search name with inside | missing
  · obtain ⟨here⟩ := inside
    rw [here.find?] at found
    have related := here.related
    have there := here.find?'
    have ready : here.slot = .ready ty := congrArg Binding.slot (Option.some.inj found)
    rw [ready] at related
    generalize here.slot' = slot at related there
    cases related
    exact ⟨_, _, there⟩
  · obtain ⟨missing⟩ := missing
    rw [missing.find?] at found
    rw [missing.drop] at outside
    obtain ⟨level', block', there⟩ := outside name ty ⟨level, block, found⟩
    exact ⟨level', block', missing.find?'.trans there⟩

/-- Another state for the same nodes, with no more documents open. What the layers outside of the
first `n` hold is left to the run. -/
structure State.Allows (base : Scope) (n : Nat) (state state' : State) : Prop where
  document : state'.position.document = state.position.document
  opened : ∀ key ∈ state'.opened, key ∈ state.opened
  scope : Scope.Beside Slot.Like base n state.scope state'.scope

/-- Wherever `body` ends well, `body'` does with the same result, provided that the outer layers
know all that the first run knows of them in the end. -/
structure Compile.Follows (base : Scope) {α : Type} (body body' : Compile α) : Prop where
  restores : body.Restores
  restores' : body'.Restores
  ends : ∀ n state state' a after, State.Allows base n state state' →
    body state = (.ok a, after) → Scope.Promises (after.scope.drop n) base →
    ∃ after', body' state' = (.ok a, after') ∧
      Scope.Beside Slot.Like base n after.scope after'.scope

variable {base : Scope} {n : Nat} {state state' after : State}

namespace Compile.Follows

variable {α β : Type} {body body' : Compile α}

/-- What restores the state goes on to allow as much. -/
theorem allows (follows : Follows base body body') {a : α} {after' : State}
    (allows : State.Allows base n state state') (ran : body state = (.ok a, after))
    (ran' : body' state' = (.ok a, after'))
    (beside : Scope.Beside Slot.Like base n after.scope after'.scope) :
    State.Allows base n after after' := by
  obtain ⟨events, kept⟩ := follows.restores state
  obtain ⟨events', kept'⟩ := follows.restores' state'
  rw [ran] at kept
  rw [ran'] at kept'
  refine ⟨?_, fun key member => ?_, beside⟩
  · rw [kept.position, kept'.position]
    exact allows.document
  · rw [kept'.opened] at member
    rw [kept.opened]
    exact allows.opened key member

theorem pure (a : α) : Follows base (Pure.pure a : Compile α) (Pure.pure a) := by
  refine ⟨.pure a, .pure a, fun n state state' b after allows ran _ => ?_⟩
  cases ran
  exact ⟨state', rfl, allows.scope⟩

theorem raise (error : CompileError) :
    Follows base (Compile.raise error : Compile α) (Compile.raise error) :=
  ⟨.raise error, .raise error, fun _ _ _ _ _ _ ran => nomatch ran⟩

theorem fail (fault : Fault) :
    Follows base (Compile.fail fault : Compile α) (Compile.fail fault) :=
  ⟨.fail fault, .fail fault, fun _ _ _ _ _ _ ran => nomatch ran⟩

theorem noteLeft {event : Position → Event} (unresolving : Event.Unresolving event)
    (inside : Follows base body body') : Follows base (do Compile.note event; body) body' := by
  refine ⟨(Restores.note unresolving).bind fun _ => inside.restores, inside.restores',
    fun n state state' a after allows ran known => ?_⟩
  have noted : State.Allows base n
      { state with journal := event state.position :: state.journal } state' :=
    ⟨allows.document, allows.opened, allows.scope⟩
  exact inside.ends n _ state' a after noted ran known

theorem noteRight {event : Position → Event} (unresolving : Event.Unresolving event)
    (inside : Follows base body body') : Follows base body (do Compile.note event; body') := by
  refine ⟨inside.restores, (Restores.note unresolving).bind fun _ => inside.restores',
    fun n state state' a after allows ran known => ?_⟩
  have noted : State.Allows base n state
      { state' with journal := event state'.position :: state'.journal } :=
    ⟨allows.document, allows.opened, allows.scope⟩
  exact inside.ends n state _ a after noted ran known

theorem bind {next next' : α → Compile β} (first : Follows base body body')
    (rest : ∀ a, Follows base (next a) (next' a)) :
    Follows base (body >>= next) (body' >>= next') := by
  refine ⟨first.restores.bind fun a => (rest a).restores,
    first.restores'.bind fun a => (rest a).restores',
    fun n state state' b after allows ran known => ?_⟩
  obtain ⟨a, middle, firstRan, nextRan⟩ := bind_ok ran
  obtain ⟨events, kept⟩ := (rest a).restores middle
  rw [nextRan] at kept
  have early : Scope.Promises (middle.scope.drop n) base :=
    (Scope.Settles.promises (List.forall₂_drop n kept.scope)).trans known
  obtain ⟨middle', firstRan', beside⟩ := first.ends n state state' a middle allows firstRan early
  obtain ⟨after', nextRan', beside'⟩ := (rest a).ends n middle middle' b after
    (first.allows allows firstRan firstRan' beside) nextRan known
  exact ⟨after', (bind_of_ok firstRan').trans nextRan', beside'⟩

theorem under (segments : List String) (inside : Follows base body body') :
    Follows base (Compile.under segments body) (Compile.under segments body') := by
  refine ⟨.under segments inside.restores, .under segments inside.restores',
    fun n state state' a after allows ran known => ?_⟩
  obtain ⟨inner, ended, rfl⟩ := under_ok ran
  have deeper : State.Allows base n
      { state with position.path := state.position.path ++ segments }
      { state' with position.path := state'.position.path ++ segments } :=
    ⟨allows.document, allows.opened, allows.scope⟩
  obtain ⟨inner', ended', beside⟩ := inside.ends n _ _ a inner deeper ended known
  refine ⟨{ inner' with
    position.path := inner'.position.path.take state'.position.path.length }, ?_, beside⟩
  simp only [Compile.under, ended']

theorem part (path : List String) (inside : Follows base body body') :
    Follows base
      (do let position ← Compile.read (·.position); Compile.within { position with path } body)
      (do let position ← Compile.read (·.position)
          Compile.within { position with path } body') := by
  refine ⟨(Restores.read _).bind fun _ => .within _ inside.restores,
    (Restores.read _).bind fun _ => .within _ inside.restores',
    fun n state state' a after allows ran known => ?_⟩
  obtain ⟨inner, ended, rfl⟩ := within_ok ran
  have there : State.Allows base n { state with position := { state.position with path } }
      { state' with position := { state'.position with path } } :=
    ⟨allows.document, allows.opened, allows.scope⟩
  obtain ⟨inner', ended', beside⟩ := inside.ends n _ _ a inner there ended known
  refine ⟨{ inner' with position := state'.position }, ?_, beside⟩
  simp only [read_bind, Compile.within, ended']

theorem block {entries entries' : List Definitions.Entry}
    (same : List.Forall₂ (Definitions.Entry.Matching Eq) entries entries')
    (inside : Follows base body body') :
    Follows base
      (do
        let position ← Compile.read (·.position)
        Compile.withLayer (Definitions.slots position entries) body)
      (do
        let position ← Compile.read (·.position)
        Compile.withLayer (Definitions.slots position entries') body') := by
  refine ⟨(Restores.read _).bind fun _ => .withLayer _ inside.restores,
    (Restores.read _).bind fun _ => .withLayer _ inside.restores',
    fun n state state' a after allows ran known => ?_⟩
  obtain ⟨inner, ended, rfl⟩ := withLayer_ok ran
  have declared : Scope.Beside Slot.Like base (n + 1)
      (state.entering (Definitions.slots state.position entries)).scope
      (state'.entering (Definitions.slots state'.position entries')).scope :=
    .entering same (fun matching => .pending matching.node.symm allows.document) allows.scope
  obtain ⟨events, kept⟩ := inside.restores
    (state.entering (Definitions.slots state.position entries))
  rw [ended] at kept
  obtain ⟨layer, rest, -, -, parts⟩ := List.forall₂_cons_left_iff.mp kept.scope
  have behind : inner.scope.drop (n + 1) = (inner.scope.drop 1).drop n := by
    rw [parts]
    rfl
  have deeper : State.Allows base (n + 1)
      (state.entering (Definitions.slots state.position entries))
      (state'.entering (Definitions.slots state'.position entries')) :=
    ⟨allows.document, allows.opened, declared⟩
  obtain ⟨inner', ended', beside⟩ := inside.ends (n + 1) _ _ a inner deeper ended (behind ▸ known)
  refine ⟨{ inner' with scope := inner'.scope.drop 1 }, ?_, beside.leaving⟩
  simp only [read_bind, Compile.withLayer, ended']

end Compile.Follows

/-! ## Names -/

namespace Definitions

variable {compile compile' : NodeCompiler} {name reference : String} {ty : Ty}

/-- To settle a name leaves the layers alone that are inside of the name's own. -/
theorem settle_inner (restores : compile.Restores) {inner outer : Scope} {binding : Scope.Binding}
    (parts : state.scope = inner ++ outer)
    (shadowless : ∀ layer ∈ inner, layer.slots.lookup name = none)
    (found : state.scope.find? name = some binding)
    (ran : settle compile name reference binding state = (.ok ty, after)) :
    ∃ outer', after.scope = inner ++ outer' := by
  obtain ⟨level, block, slot⟩ := binding
  cases slot with
  | ready type =>
    cases ran
    exact ⟨outer, parts⟩
  | compiling => cases ran
  | pending definition =>
    rw [parts, Scope.find?_append shadowless] at found
    obtain ⟨hidden, layer, rest, within, rfl, -, -, -⟩ := Scope.located found
    have whole : state.scope = (inner ++ hidden) ++ layer :: rest := by
      rw [parts, within, List.append_assoc]
    obtain ⟨middle, changed, rest', -, -, -, -, rfl⟩ := demand_ok restores whole ran
    exact ⟨_, List.append_assoc _ _ _⟩

/-- A name of an inner layer is settled on both sides alike. -/
theorem settle_inside (restores : compile.Restores) (restores' : compile'.Restores)
    (follows : ∀ node, Compile.Follows base (compile node) (compile' node))
    (allows : State.Allows base n state state')
    (found : Scope.Beside.Inside Slot.Like base n state.scope state'.scope name)
    (ran : settle compile name reference ⟨found.outer.length, found.layer.number, found.slot⟩
      state = (.ok ty, after))
    (known : Scope.Promises (after.scope.drop n) base) :
    ∃ after', settle compile' name reference
        ⟨found.outer'.length, found.layer'.number, found.slot'⟩ state' = (.ok ty, after') ∧
      Scope.Beside Slot.Like base n after.scope after'.scope := by
  have related := found.related
  generalize found.slot = slot, found.slot' = slot' at related ran ⊢
  cases related with
  | ready =>
    cases ran
    exact ⟨state', rfl, allows.scope⟩
  | compiling => cases ran
  | @pending left right node document =>
    obtain ⟨middle, inner, rest, compiled, same, -, -, rfl⟩ := demand_ok restores found.parts ran
    have early : Scope.Promises (middle.scope.drop (found.count + 1)) base := by
      dsimp only at known
      rw [found.drop] at known
      rw [same]
      exact known
    have marked : State.Allows base (found.count + 1)
        (demanding state name left found.layer found.outer)
        (demanding state' name right found.layer' found.outer') :=
      ⟨document, allows.opened, found.set .compiling⟩
    obtain ⟨middle', compiled', beside⟩ :=
      (follows left.node).ends (found.count + 1) _ _ ty middle marked compiled early
    rw [← node] at compiled'
    obtain ⟨scope, scope', beside', -, demanded, demanded'⟩ :=
      demand_beside restores restores' found .ready compiled compiled' beside
    refine ⟨_, demanded', ?_⟩
    rw [show demand compile found.outer.length name left state = _ from ran] at demanded
    cases demanded
    exact beside'

theorem resolve_follows (restores : compile.Restores) (restores' : compile'.Restores)
    (follows : ∀ node, Compile.Follows base (compile node) (compile' node))
    (name reference : String) :
    Compile.Follows base (resolve compile name reference) (resolve compile' name reference) := by
  refine ⟨resolve_restores restores _ _, resolve_restores restores' _ _,
    fun n state state' ty after allows ran known => ?_⟩
  rcases allows.scope.search name with inside | outside
  · obtain ⟨found⟩ := inside
    rw [resolve_of_some found.find?] at ran
    obtain ⟨_, middle, settled, noted⟩ := Compile.bind_ok ran
    cases noted
    obtain ⟨middle', settled', beside⟩ :=
      settle_inside restores restores' follows allows found settled known
    rw [resolve_of_some found.find?']
    exact ⟨_, Compile.bind_of_ok settled', beside⟩
  · obtain ⟨found⟩ := outside
    obtain ⟨binding, middle, located, settled, rfl⟩ := resolve_settled ran
    -- The first run may have to compile the body. For the second one it is enough that the name has
    -- its type in the end.
    obtain ⟨outer, parts⟩ := settle_inner restores found.parts found.shadowless located settled
    have stands : middle.scope.Knows name ty := ⟨_, _, settle_ok restores located settled⟩
    rw [parts, Scope.knows_append found.shadowless] at stands
    dsimp only at known ⊢
    rw [parts, List.drop_left' found.length] at known
    obtain ⟨level, block, there⟩ := known name ty stands
    rw [resolve_of_some (found.find?'.trans there), parts]
    refine ⟨_, rfl, ?_⟩
    have beside := found.back outer
    rw [← found.parts'] at beside
    exact beside

end Definitions

/-! ## Documents and nodes -/

theorem Reference.external_follows {loader loader' : Loader} {compile compile' : NodeCompiler}
    (restores : compile.Restores) (restores' : compile'.Restores)
    (extension : ∀ location document, loader.load location = .ok document →
      loader'.load location = .ok document)
    (reference : String)
    (follows : ∀ fragment document,
      Compile.Follows base (Reference.document compile reference fragment document)
        (Reference.document compile' reference fragment document)) :
    Compile.Follows base (external loader compile reference)
      (external loader' compile' reference) := by
  refine ⟨external_restores loader restores _, external_restores loader' restores' _,
    fun n state state' ty after allows ran known => ?_⟩
  obtain ⟨closed, document, inner, loaded, ended, rfl⟩ := external_ok ran
  have same : target reference state' = target reference state := by
    unfold target
    rw [allows.document]
  have closed' : (target reference state').key ∉ state'.opened := by
    rw [same]
    exact fun member => closed (allows.opened _ member)
  have loaded' : loader'.load (target reference state') = .ok document := by
    rw [same]
    exact extension _ _ loaded
  have entering : State.Allows base n (entered loader (target reference state) state)
      (entered loader' (target reference state') state') := by
    rw [same]
    refine ⟨rfl, fun key member => ?_, allows.scope⟩
    rcases List.mem_cons.mp member with own | member
    · exact own ▸ List.mem_cons_self
    · exact List.mem_cons_of_mem _ (allows.opened key member)
  obtain ⟨inner', ended', beside⟩ :=
    (follows (split reference).2 document).ends n _ _ ty inner entering ended known
  refine ⟨left state' inner', ?_, beside⟩
  rw [external_of_loaded closed' loaded', ended']

/-- With a loader that loads as much, compiling a node is followed by compiling it once more. -/
theorem Compile.Follows.congruence {loader loader' : Loader}
    (extension : ∀ location document, loader.load location = .ok document →
      loader'.load location = .ok document) (base : Scope) :
    Compile.Congruence (fun _ => Compile.Follows base) Eq loader loader' where
  nodes := .eq
  pure := .pure
  raise := .raise
  fail := .fail
  noteLeft := .noteLeft
  noteRight := .noteRight
  bind := .bind
  under segments := .under segments
  part path := .part path
  block := .block
  resolve depth name reference compiles := Definitions.resolve_follows
    (Node.compile_restores loader depth) (Node.compile_restores loader' depth)
    (fun _ => compiles rfl) name reference
  external depth reference documents := Reference.external_follows
    (Node.compile_restores loader depth) (Node.compile_restores loader' depth) extension
    reference documents

/-- What compiled well compiles again, with no more documents open and in any scope that knows what
was known in the end; and that scope is left as it is. -/
theorem Node.compile_again {loader loader' : Loader}
    (extension : ∀ location document, loader.load location = .ok document →
      loader'.load location = .ok document)
    {depth : Nat} {node : Json} {ty : Ty}
    (ran : Node.compile loader depth node state = (.ok ty, after))
    (document : state'.position.document = state.position.document)
    (opened : ∀ key ∈ state'.opened, key ∈ state.opened)
    (known : Scope.Promises after.scope state'.scope) :
    ∃ after', Node.compile loader' depth node state' = (.ok ty, after') ∧
      after'.scope = state'.scope := by
  have follows := (Compile.Follows.congruence extension state'.scope).compile depth (Eq.refl node)
  obtain ⟨after', ran', beside⟩ :=
    follows.ends 0 state state' ty after ⟨document, opened, .outer⟩ ran known
  exact ⟨after', ran', beside.eq_base⟩

end SchemaTypes
