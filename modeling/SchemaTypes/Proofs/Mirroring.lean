import SchemaTypes.Proofs.Counterpart

/-! States that mirror each other: they have the same position, the same open documents and inner
layers that match, and outside of those every name stands for the same type on both sides, or for
none. From such states nodes that match compile to the same type, or fail with the same error. What
the loaders have for documents that stay open on both sides makes no difference. -/
namespace SchemaTypes

/-- Loaders that differ in the documents of some keys at most. -/
def Loader.SameApart (loader : Loader) (held : List Location.Key) (loader' : Loader) : Prop :=
  ∀ location, location.key ∉ held → loader'.load location = loader.load location

theorem Loader.SameApart.refl (loader : Loader) : loader.SameApart [] loader := fun _ _ => rfl

/-- Scopes in which every name that stands for anything stands for one and the same type. -/
def Scope.Agrees (left right : Scope) : Prop :=
  ∀ name, (left.find? name = none ∧ right.find? name = none) ∨
    ∃ ty, left.Knows name ty ∧ right.Knows name ty

/-- Slots that hold the same type, or related bodies declared at one place. -/
inductive Slot.Mirrors (related : Json → Json → Prop) : Slot → Slot → Prop where
  | ready (ty : Ty) : Mirrors related (.ready ty) (.ready ty)
  | pending {left right : Definition} : right.position = left.position →
      related left.node right.node → Mirrors related (.pending left) (.pending right)
  | compiling : Mirrors related .compiling .compiling

/-- States with `outer` and `base` outside of the first `n` layers, and alike but for these and for
nodes that are related. The documents whose keys are `held` are open. -/
structure State.Mirrors (related : Json → Json → Prop) (held : List Location.Key)
    (outer base : Scope) (n : Nat) (state state' : State) : Prop where
  position : state'.position = state.position
  opened : state'.opened = state.opened
  held : held ⊆ state.opened
  scope : Scope.Beside (Slot.Mirrors related) base n state.scope state'.scope
  outer : state.scope.drop n = outer

/-- The same result and states that mirror each other, or the same error. -/
inductive Compile.MirroredEnds (related : Json → Json → Prop) (held : List Location.Key)
    (outer base : Scope) (n : Nat) {α : Type} : Except CompileError α × State → Except CompileError α × State → Prop where
  | ok {a : α} {after after' : State} : State.Mirrors related held outer base n after after' →
      MirroredEnds related held outer base n (.ok a, after) (.ok a, after')
  | error {error : CompileError} {after after' : State} :
      MirroredEnds related held outer base n (.error error, after) (.error error, after')

/-- From states that mirror each other, two computations end alike. -/
def Compile.Mirrors (related : Json → Json → Prop) (held : List Location.Key)
    (outer base : Scope) {α : Type} (body body' : Compile α) : Prop :=
  ∀ n state state', State.Mirrors related held outer base n state state' →
    MirroredEnds related held outer base n (body state) (body' state')

variable {related : Json → Json → Prop} {held : List Location.Key} {outer base : Scope} {n : Nat}
  {state state' : State}

namespace Compile

variable {α β : Type} {body body' : Compile α}

theorem MirroredEnds.outcome {left right : Except CompileError α × State}
    (ended : MirroredEnds related held outer base n left right) : right.1 = left.1 := by
  cases ended <;> rfl

theorem MirroredEnds.bind {next next' : α → Compile β}
    (first : MirroredEnds related held outer base n (body state) (body' state'))
    (rest : ∀ a after after', State.Mirrors related held outer base n after after' →
      MirroredEnds related held outer base n (next a after) (next' a after')) :
    MirroredEnds related held outer base n ((body >>= next) state) ((body' >>= next') state') := by
  change MirroredEnds related held outer base n (andThen body next state) (andThen body' next' state')
  unfold andThen
  generalize body state = left, body' state' = right at first
  cases first with
  | ok mirrors => exact rest _ _ _ mirrors
  | error => exact .error

namespace Mirrors

theorem pure (a : α) : Mirrors related held outer base (Pure.pure a : Compile α) (Pure.pure a) :=
  fun _ _ _ mirrors => .ok mirrors

theorem raise (error : CompileError) :
    Mirrors related held outer base (Compile.raise error : Compile α) (Compile.raise error) :=
  fun _ _ _ _ => .error

theorem fail (fault : Fault) :
    Mirrors related held outer base (Compile.fail fault : Compile α) (Compile.fail fault) := by
  intro n state state' mirrors
  unfold Compile.fail Compile.raise
  rw [mirrors.position]
  exact .error

theorem noteLeft (event : Position → Event) (inside : Mirrors related held outer base body body') :
    Mirrors related held outer base (do Compile.note event; body) body' := by
  intro n state state' mirrors
  exact inside n _ state' ⟨mirrors.position, mirrors.opened, mirrors.held, mirrors.scope, mirrors.outer⟩

theorem noteRight (event : Position → Event) (inside : Mirrors related held outer base body body') :
    Mirrors related held outer base body (do Compile.note event; body') := by
  intro n state state' mirrors
  exact inside n state _ ⟨mirrors.position, mirrors.opened, mirrors.held, mirrors.scope, mirrors.outer⟩

theorem bind {next next' : α → Compile β} (first : Mirrors related held outer base body body')
    (rest : ∀ a, Mirrors related held outer base (next a) (next' a)) :
    Mirrors related held outer base (body >>= next) (body' >>= next') := by
  intro n state state' mirrors
  exact (first n state state' mirrors).bind fun a => rest a n

/-- A change of the state that is taken back behind a computation, with `k` layers more meanwhile. -/
theorem around (k : Nat) (before before' : State → State) (behind : State → State → State)
    (there : ∀ n state state', State.Mirrors related held outer base n state state' →
      State.Mirrors related held outer base (n + k) (before state) (before' state'))
    (back : ∀ n state state' after after', State.Mirrors related held outer base n state state' →
      State.Mirrors related held outer base (n + k) after after' →
      State.Mirrors related held outer base n (behind state after) (behind state' after'))
    (inside : Mirrors related held outer base body body') :
    Mirrors related held outer base
      (fun state => ((body (before state)).1, behind state (body (before state)).2))
      (fun state => ((body' (before' state)).1, behind state (body' (before' state)).2)) := by
  intro n state state' mirrors
  have ended := inside (n + k) _ _ (there n state state' mirrors)
  dsimp only
  generalize body (before state) = left, body' (before' state') = right at ended ⊢
  cases ended with
  | ok after => exact .ok (back n state state' _ _ mirrors after)
  | error => exact .error

theorem under (segments : List String) (inside : Mirrors related held outer base body body') :
    Mirrors related held outer base (Compile.under segments body) (Compile.under segments body') := by
  refine inside.around 0
    (fun state => { state with position.path := state.position.path ++ segments })
    (fun state => { state with position.path := state.position.path ++ segments })
    (fun state after =>
      { after with position.path := after.position.path.take state.position.path.length }) ?_ ?_
  · intro n state state' mirrors
    exact ⟨by rw [mirrors.position], mirrors.opened, mirrors.held, mirrors.scope, mirrors.outer⟩
  · intro n state state' after after' mirrors ended
    exact ⟨by simp only [mirrors.position, ended.position], ended.opened, ended.held, ended.scope, ended.outer⟩

theorem part (path : List String) (inside : Mirrors related held outer base body body') :
    Mirrors related held outer base
      (do let position ← Compile.read (·.position); Compile.within { position with path } body)
      (do let position ← Compile.read (·.position)
          Compile.within { position with path } body') := by
  refine inside.around 0
    (fun state => { state with position := { state.position with path } })
    (fun state => { state with position := { state.position with path } })
    (fun state after => { after with position := state.position }) ?_ ?_
  · intro n state state' mirrors
    exact ⟨by rw [mirrors.position], mirrors.opened, mirrors.held, mirrors.scope, mirrors.outer⟩
  · intro n state state' after after' mirrors ended
    exact ⟨mirrors.position, ended.opened, ended.held, ended.scope, ended.outer⟩

theorem block {entries entries' : List Definitions.Entry}
    (same : List.Forall₂ (Definitions.Entry.Matching related) entries entries')
    (inside : Mirrors related held outer base body body') :
    Mirrors related held outer base
      (do
        let position ← Compile.read (·.position)
        Compile.withLayer (Definitions.slots position entries) body)
      (do
        let position ← Compile.read (·.position)
        Compile.withLayer (Definitions.slots position entries') body') := by
  refine inside.around 1
    (fun state => state.entering (Definitions.slots state.position entries))
    (fun state => state.entering (Definitions.slots state.position entries'))
    (fun _ after => { after with scope := after.scope.drop 1 }) ?_ ?_
  · intro n state state' mirrors
    refine ⟨mirrors.position, mirrors.opened, mirrors.held,
      mirrors.scope.entering same fun matching => ?_, mirrors.outer⟩
    refine .pending ?_ matching.node
    rw [mirrors.position, matching.keyword, matching.name]
  · intro n state state' after after' mirrors ended
    obtain ⟨position, opened, kept, scope, rest⟩ := ended
    refine ⟨position, opened, kept, scope.leaving, ?_⟩
    rw [← rest, List.drop_drop, Nat.add_comm]

end Mirrors

end Compile

/-! ## Names and documents -/

namespace Definitions

variable {compile compile' : NodeCompiler} {name reference : String}

/-- A body of an inner layer ends alike on both sides. -/
theorem demand_mirrors (restores : compile.Restores) (restores' : compile'.Restores)
    (compiles : ∀ {node node'}, related node node' →
      Compile.Mirrors related held outer base (compile node) (compile' node'))
    (mirrors : State.Mirrors related held outer base n state state')
    (found : Scope.Beside.Inside (Slot.Mirrors related) base n state.scope state'.scope name)
    {left right : Definition} (position : right.position = left.position)
    (same : related left.node right.node) :
    Compile.MirroredEnds related held outer base n
      (demand compile found.outer.length name left state)
      (demand compile' found.outer'.length name right state') := by
  have behind : found.outer.drop found.count = outer := by
    have whole := mirrors.outer
    rw [found.parts, found.drop] at whole
    exact whole
  have marked : State.Mirrors related held outer base (found.count + 1)
      (demanding state name left found.layer found.outer)
      (demanding state' name right found.layer' found.outer') :=
    ⟨position, mirrors.opened, mirrors.held, found.set .compiling, behind⟩
  have ended := compiles same _ _ _ marked
  cases compiled : compile left.node (demanding state name left found.layer found.outer) with
  | mk outcome middle =>
  cases compiled' : compile' right.node
    (demanding state' name right found.layer' found.outer') with
  | mk outcome' middle' =>
    rw [compiled, compiled'] at ended
    cases ended with
    | error =>
      rw [demand_of_error found.parts compiled, demand_of_error found.parts' compiled']
      exact .error
    | ok inside =>
      obtain ⟨scope, scope', beside, drop, demanded, demanded'⟩ :=
        demand_beside restores restores' found (.ready _) compiled compiled' inside.scope
      rw [demanded, demanded']
      exact .ok ⟨mirrors.position, inside.opened, inside.held, beside, drop.trans inside.outer⟩

theorem resolve_mirrors (agrees : outer.Agrees base) (restores : compile.Restores)
    (restores' : compile'.Restores)
    (compiles : ∀ {node node'}, related node node' →
      Compile.Mirrors related held outer base (compile node) (compile' node'))
    (name reference : String) :
    Compile.Mirrors related held outer base (resolve compile name reference)
      (resolve compile' name reference) := by
  intro n state state' mirrors
  have noted {binding binding' : Scope.Binding} (ty : Ty) {after after' : State}
      (mirrors : State.Mirrors related held outer base n after after') :
      Compile.MirroredEnds related held outer base n
        ((do Compile.note fun _ => .resolved binding.block name ty; pure ty : Compile Ty) after)
        ((do Compile.note fun _ => .resolved binding'.block name ty; pure ty : Compile Ty)
          after') :=
    Compile.Mirrors.noteLeft _ (.noteRight _ (.pure ty)) n after after' mirrors
  rcases mirrors.scope.search name with inside | outside
  · obtain ⟨found⟩ := inside
    rw [resolve_of_some found.find?, resolve_of_some found.find?']
    refine Compile.MirroredEnds.bind ?_ fun ty _ _ after => noted ty after
    have slots := found.related
    unfold settle
    dsimp only
    generalize found.slot = slot, found.slot' = slot' at slots
    cases slots with
    | ready ty => exact .ok mirrors
    | compiling => exact Compile.Mirrors.fail _ n state state' mirrors
    | pending position same =>
      exact demand_mirrors restores restores' compiles mirrors found position same
  · obtain ⟨found⟩ := outside
    have there : found.outer = outer := by rw [← mirrors.outer, found.drop]
    rcases agrees name with ⟨absent, absent'⟩ | ⟨ty, ⟨_, _, known⟩, ⟨_, _, known'⟩⟩
    · rw [← there] at absent
      rw [resolve_of_none (found.find?.trans absent), resolve_of_none (found.find?'.trans absent'),
        mirrors.position]
      exact .error
    · rw [← there] at known
      rw [resolve_of_some (found.find?.trans known), resolve_of_some (found.find?'.trans known')]
      exact noted ty mirrors

end Definitions

/-- A document that is asked for is none of those that stay open, so both loaders have the same. -/
theorem Reference.external_mirrors {compile compile' : NodeCompiler} {loader loader' : Loader}
    (same : loader.SameApart held loader') (restores : compile.Restores) (reference : String)
    (documents : ∀ fragment document,
      Compile.Mirrors related held outer base
        (Reference.document compile reference fragment document)
        (Reference.document compile' reference fragment document)) :
    Compile.Mirrors related held outer base (external loader compile reference)
      (external loader' compile' reference) := by
  intro n state state' mirrors
  have place : target reference state' = target reference state := by
    unfold target
    rw [mirrors.position]
  by_cases cyclic : (target reference state).key ∈ state.opened
  · have cyclic' : (target reference state').key ∈ state'.opened := by
      rw [place, mirrors.opened]
      exact cyclic
    rw [external_of_open cyclic, external_of_open cyclic', mirrors.position]
    exact .error
  · have closed' : (target reference state').key ∉ state'.opened := by
      rw [place, mirrors.opened]
      exact cyclic
    have loads : loader'.load (target reference state') = loader.load (target reference state) := by
      rw [place]
      exact same _ fun listed => cyclic (mirrors.held listed)
    cases loaded : loader.load (target reference state) with
    | error error =>
      rw [external_of_failed cyclic loaded, external_of_failed closed' (loads.trans loaded)]
      exact .error
    | ok root =>
      rw [external_of_loaded cyclic loaded, external_of_loaded closed' (loads.trans loaded)]
      have there : State.Mirrors related held outer base n
          (entered loader (target reference state) state)
          (entered loader' (target reference state') state') := by
        rw [place]
        exact ⟨rfl, congrArg (List.cons _) mirrors.opened,
          List.subset_cons_of_subset _ mirrors.held, mirrors.scope, mirrors.outer⟩
      obtain ⟨_, kept⟩ := document_restores restores reference (split reference).2 root
        (entered loader (target reference state) state)
      have opened := kept.opened
      have ended := documents (split reference).2 root n _ _ there
      dsimp only
      generalize document compile reference (split reference).2 root
        (entered loader (target reference state) state) = left at ended opened ⊢
      generalize document compile' reference (split reference).2 root
        (entered loader' (target reference state') state') = right at ended ⊢
      cases ended with
      | error => exact .error
      | ok after =>
        refine .ok ⟨mirrors.position, congrArg (List.drop 1) after.opened, ?_, after.scope,
          after.outer⟩
        dsimp only [Reference.left] at opened ⊢
        rw [opened]
        exact mirrors.held

/-- From states that mirror each other, nodes that match are compiled alike at every depth. -/
theorem Compile.Mirrors.congruence (nodes : Json.Matching related) (agrees : outer.Agrees base)
    {loader loader' : Loader} (same : loader.SameApart held loader') :
    Compile.Congruence (fun _ => Compile.Mirrors related held outer base) related loader
      loader' where
  nodes := nodes
  pure := .pure
  raise := .raise
  fail := .fail
  noteLeft _ := .noteLeft _
  noteRight _ := .noteRight _
  bind := .bind
  under segments := .under segments
  part path := .part path
  block := .block
  resolve depth name reference compiles := Definitions.resolve_mirrors agrees
    (Node.compile_restores loader depth) (Node.compile_restores loader' depth) compiles name
    reference
  external depth reference documents := Reference.external_mirrors same
    (Node.compile_restores loader depth) reference documents

end SchemaTypes
