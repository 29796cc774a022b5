import SchemaTypes.Proofs.Simulation

/-! Compiling decides the lexical judgement. A good end gives a type that the node has; an error,
unless the bound on the depth was met, says that the node has no low derivation. Both are carried
through every way of putting computations together, for a scope that stands for an environment. -/
namespace SchemaTypes

/-- What a run tells about values that are right and values that are possible. -/
structure Compile.DecidesFrom {α : Type} (body : Compile α) (state : State) (env : Env)
    (height : Nat) (right possible : α → Prop) : Prop where
  gives : ∀ a after, body state = (.ok a, after) → right a ∧ env.Matches height after.scope
  refuses : ∀ error after, body state = (.error error, after) →
    error = .exhausted ∨ ∀ a, ¬possible a

def Compile.Decides {α : Type} (body : Compile α) (env : Env) (height : Nat)
    (right possible : α → Prop) : Prop :=
  ∀ state, env.Matches height state.scope → body.DecidesFrom state env height right possible

/-- A compiler that decides which type a node has, as far as its references stay in its document. -/
def NodeCompiler.Decides (compile : NodeCompiler) : Prop :=
  ∀ env height node, node.Local →
    (compile node).Decides env height (Derives env node) (DerivesIn (height + 1) env node)

variable {env : Env} {height : Nat}

namespace Compile

variable {α β : Type} {body : Compile α} {state : State} {right possible : α → Prop}

theorem DecidesFrom.pure {a : α} (matched : env.Matches height state.scope) (fits : right a) :
    (Pure.pure a : Compile α).DecidesFrom state env height right possible where
  gives := by
    intro value after ran
    cases ran
    exact ⟨fits, matched⟩
  refuses := by rintro _ _ ⟨⟩

theorem DecidesFrom.fail {fault : Fault} (impossible : ∀ a, ¬possible a) :
    (Compile.fail fault : Compile α).DecidesFrom state env height right possible where
  gives := by rintro _ _ ⟨⟩
  refuses := fun _ _ _ => Or.inr impossible

theorem DecidesFrom.bind {next : α → Compile β} {right' possible' : α → β → Prop}
    (first : body.DecidesFrom state env height right possible)
    (rest : ∀ a, right a → (next a).Decides env height (right' a) (possible' a))
    (unique : ∀ a b, right a → possible b → a = b) :
    (body >>= next).DecidesFrom state env height (fun b => ∃ a, right a ∧ right' a b)
      (fun b => ∃ a, possible a ∧ possible' a b) where
  gives := by
    intro b after ran
    obtain ⟨a, middle, firstRan, nextRan⟩ := bind_ok ran
    obtain ⟨fits, matched⟩ := first.gives a middle firstRan
    obtain ⟨fits', matched'⟩ := (rest a fits middle matched).gives b after nextRan
    exact ⟨⟨a, fits, fits'⟩, matched'⟩
  refuses := by
    intro error after ran
    rcases bind_error ran with ended | ⟨a, middle, firstRan, nextRan⟩
    · exact (first.refuses error after ended).imp_right
        fun never _ ⟨a, possible, _⟩ => never a possible
    · obtain ⟨fits, matched⟩ := first.gives a middle firstRan
      refine ((rest a fits middle matched).refuses error after nextRan).imp_right ?_
      rintro never b ⟨other, possible, possible'⟩
      cases unique a other fits possible
      exact never b possible'

namespace Decides

variable {right' possible' : α → Prop}

theorem bind {next : α → Compile β} {right' possible' : α → β → Prop}
    (first : body.Decides env height right possible)
    (rest : ∀ a, right a → (next a).Decides env height (right' a) (possible' a))
    (unique : ∀ a b, right a → possible b → a = b) :
    (body >>= next).Decides env height (fun b => ∃ a, right a ∧ right' a b)
      (fun b => ∃ a, possible a ∧ possible' a b) := fun state matched =>
  (first state matched).bind rest unique

theorem imp (decides : body.Decides env height right possible)
    (weaker : ∀ a, right a → right' a) (stronger : ∀ a, possible' a → possible a) :
    body.Decides env height right' possible' := by
  intro state matched
  obtain ⟨gives, refuses⟩ := decides state matched
  refine ⟨fun a after ran => ?_, fun error after ran => ?_⟩
  · obtain ⟨fits, matched⟩ := gives a after ran
    exact ⟨weaker a fits, matched⟩
  · exact (refuses error after ran).imp_right fun never a possible => never a (stronger a possible)

theorem pure {a : α} (fits : right a) :
    (Pure.pure a : Compile α).Decides env height right possible :=
  fun _ matched => .pure matched fits

theorem fail {fault : Fault} (impossible : ∀ a, ¬possible a) :
    (Compile.fail fault : Compile α).Decides env height right possible :=
  fun _ _ => .fail impossible

theorem ofExcept (outcome : Except Fault α) : (Compile.ofExcept outcome).Decides env height
    (fun a => outcome = .ok a) (fun a => outcome = .ok a) := by
  cases outcome with
  | ok a => exact pure rfl
  | error fault => exact fail (by rintro _ ⟨⟩)

/-- A note decides nothing. -/
theorem note (event : Position → Event) :
    (Compile.note event).Decides env height (fun _ => True) (fun _ => True) := by
  refine fun state matched => ⟨?_, by rintro _ _ ⟨⟩⟩
  intro a after ran
  cases ran
  exact ⟨trivial, matched⟩

/-- What comes behind a note decides the whole. -/
theorem after_note {event : Position → Event} {next : Unit → Compile α}
    (rest : (next ()).Decides env height right possible) :
    (Compile.note event >>= next).Decides env height right possible := by
  have whole : (Compile.note event >>= next).Decides env height
      (fun a => ∃ _ : Unit, True ∧ right a) (fun a => ∃ _ : Unit, True ∧ possible a) :=
    bind (note event) (fun _ _ => rest) fun _ _ _ _ => rfl
  exact whole.imp (fun a ⟨_, _, fits⟩ => fits) fun a fits => ⟨(), trivial, fits⟩

/-- A look into the state decides nothing, whatever it finds. -/
theorem after_read {look : State → β} {next : β → Compile α}
    (rest : ∀ b, (next b).Decides env height right possible) :
    (Compile.read look >>= next).Decides env height right possible := by
  intro state matched
  obtain ⟨gives, refuses⟩ := rest (look state) state matched
  exact ⟨gives, refuses⟩

theorem under (segments : List String) (inside : body.Decides env height right possible) :
    (Compile.under segments body).Decides env height right possible := by
  intro state matched
  obtain ⟨gives, refuses⟩ :=
    inside { state with position.path := state.position.path ++ segments } matched
  refine ⟨fun a after ran => ?_, fun error after ran => ?_⟩
  · obtain ⟨inner, ended, rfl⟩ := under_ok ran
    exact gives a inner ended
  · obtain ⟨ended, rfl⟩ := Prod.mk.inj ran
    exact refuses error _ (Prod.ext ended rfl)

end Decides

end Compile

/-- A plan decides what it can give when nodes have the types that they are judged to have. -/
theorem Plan.run_decides {α : Type} {compile : NodeCompiler} (decides : compile.Decides)
    {plan : Plan α} (visits : plan.Visits fun _ node => node.Local) :
    (plan.run compile).Decides env height (plan.Yields (Derives env))
      (plan.Yields (DerivesIn height env)) := by
  induction plan with
  | done a => exact .pure rfl
  | fail fault => exact .fail fun _ => id
  | note remark => exact .note _
  | visit node =>
    exact (decides env height node visits).imp (fun _ => id) fun _ derived => derived.succ
  | under segments plan ih => exact (ih visits).under segments
  | andThen first next firstIH nextIH =>
    refine (firstIH visits.1).bind (fun a given => nextIH a (visits.2 a given.canGive)) ?_
    exact fun a b left right => left.unique right fun _ _ _ left right => left.unique right.derives

namespace Definitions

variable {compile : NodeCompiler}

/-- A demanded body is compiled as it is meant where it is declared. While it is compiled, its slot
stands for a body without derivations up to the height below its lowest one. -/
theorem demand_decides (restores : compile.Restores) (decides : compile.Decides) {state : State}
    {name : String} {definition : Definition} {declared : Env} {hidden outer : Scope}
    {layer : Layer} {block : Nat}
    (found : state.scope.find? name = some ⟨outer.length, block, .pending definition⟩)
    (parts : state.scope = hidden ++ layer :: outer)
    (matched : env.Matches height state.scope) (here : declared.Matches height (layer :: outer))
    (isLocal : definition.node.Local)
    (replace : ∀ lower inner rest slot, declared.Matches lower (inner :: rest) →
      slot.Fits lower declared definition.node →
        declared.Matches lower (inner.set name slot :: rest))
    (back : ∀ lower ≤ height, ∀ scope, declared.Matches lower scope →
      env.Matches lower (hidden ++ scope)) :
    (demand compile outer.length name definition).DecidesFrom state env height
      (Derives declared definition.node) (DerivesIn height declared definition.node) := by
  obtain ⟨low, within, refused, above⟩ := DerivesIn.threshold height declared definition.node
  have entering : declared.Matches low (demanding state name definition layer outer).scope :=
    replace low layer outer .compiling (here.mono within) refused
  obtain ⟨gives, refuses⟩ := decides declared low definition.node isLocal _ entering
  refine ⟨fun ty after ran => ?_, fun error after ran => ?_⟩
  · have kept := demand_restores restores found rfl
    unfold Compile.RestoresFrom at kept
    rw [ran] at kept
    obtain ⟨events, kept⟩ := kept
    obtain ⟨middle, inner, rest, compiled, same, -, -, rfl⟩ := demand_ok restores parts ran
    obtain ⟨derived, inside⟩ := gives ty middle compiled
    rw [same] at inside
    have whole := back low within _ (replace low inner rest (.ready ty) inside derived)
    exact ⟨derived, matched.lift whole kept.scope⟩
  · obtain ⟨middle, ended, -⟩ := demand_error parts ran
    refine (refuses error middle ended).imp_right fun never ty derived => ?_
    rcases above with ⟨other, derivable⟩ | rfl
    · exact never other derivable
    · exact never ty derived.succ

/-- A name in scope is settled as the environment means it, whatever its slot holds. -/
theorem settle_decides (restores : compile.Restores) (decides : compile.Decides) {state : State}
    {name : String} (reference : String) {binding : Scope.Binding}
    (matched : env.Matches height state.scope) (found : state.scope.find? name = some binding) :
    (settle compile name reference binding).DecidesFrom state env height (env.Means Derives name)
      (env.Means (DerivesIn height) name) := by
  obtain ⟨depth, block, held⟩ := binding
  obtain ⟨hidden, layer, outer, parts, rfl, -, slot, shadowless⟩ := Scope.located found
  have split := matched
  rw [parts] at split
  obtain ⟨declared, here, same, back⟩ := split.split shadowless
  rcases here.found slot with ⟨ty, known, means⟩ | ⟨node, means, fits, replace⟩
  · cases known
    exact .pure matched (.type (same.trans means))
  · have only {ty : Ty} (means' : env.Means (DerivesIn height) name ty) :
        DerivesIn height declared node ty := by
      cases means' with
      | type other =>
        rw [same, means] at other
        cases other
      | body other derived =>
        rw [same, means] at other
        cases other
        exact derived
    cases held with
    | ready ty => exact .pure matched (.body (same.trans means) fits)
    | compiling => exact .fail fun ty means' => fits ty (only means')
    | pending definition =>
      obtain ⟨rfl, isLocal⟩ := fits
      obtain ⟨gives, refuses⟩ :=
        demand_decides restores decides found parts matched here isLocal replace back
      refine ⟨fun ty after ran => ?_, fun error after ran => ?_⟩
      · obtain ⟨derived, matched⟩ := gives ty after ran
        exact ⟨.body (same.trans means) derived, matched⟩
      · exact (refuses error after ran).imp_right fun never ty means' => never ty (only means')

theorem resolve_decides (restores : compile.Restores) (decides : compile.Decides)
    (name reference : String) : (resolve compile name reference).Decides env height
      (env.Means Derives name) (env.Means (DerivesIn height) name) := by
  intro state matched
  cases found : state.scope.find? name with
  | none =>
    have undefined := matched.find?_none found
    refine ⟨fun ty after ran => ?_, fun error after ran => Or.inr fun ty means => ?_⟩
    · rw [resolve_of_none found] at ran
      cases ran
    · cases means with
      | type other | body other =>
        rw [undefined] at other
        cases other
  | some binding =>
    have settled := settle_decides restores decides reference matched found
    have noted : (do
        let ty ← settle compile name reference binding
        Compile.note fun _ => .resolved binding.block name ty
        pure ty : Compile Ty).DecidesFrom state env height
          (fun b => ∃ ty, env.Means Derives name ty ∧ b = ty)
          (fun b => ∃ ty, env.Means (DerivesIn height) name ty ∧ b = ty) :=
      settled.bind (fun ty _ => .after_note (.pure rfl)) fun _ _ => Env.Means.unique_low
    refine ⟨fun ty after ran => ?_, fun error after ran => ?_⟩
    · rw [resolve_of_some found] at ran
      obtain ⟨⟨_, means, rfl⟩, matched⟩ := noted.gives ty after ran
      exact ⟨means, matched⟩
    · rw [resolve_of_some found] at ran
      refine (noted.refuses error after ran).imp_right fun never ty means => ?_
      exact never ty ⟨ty, means, rfl⟩

theorem resolveAll_decides (restores : compile.Restores) (decides : compile.Decides)
    (entries : List Entry) : (resolveAll compile entries).Decides env height
      (fun _ => ∀ entry ∈ entries, ∃ ty, env.Means Derives entry.name ty)
      (fun _ => ∀ entry ∈ entries, ∃ ty, env.Means (DerivesIn height) entry.name ty) := by
  induction entries with
  | nil => exact .pure (by simp)
  | cons entry rest ih =>
    have first : (resolve compile entry.name entry.reference).Decides env height
        (env.Means Derives entry.name) (env.Means (DerivesIn height) entry.name) :=
      resolve_decides restores decides _ _
    refine (first.bind (fun _ _ => ih) ?_).imp ?_ ?_
    · intro a b left right
      exact left.unique_low right
    · rintro ⟨⟩ ⟨ty, means, others⟩
      exact List.forall_mem_cons.mpr ⟨⟨ty, means⟩, others⟩
    · rintro ⟨⟩ all
      obtain ⟨⟨ty, means⟩, others⟩ := List.forall_mem_cons.mp all
      exact ⟨ty, means, others⟩

/-- With a block of definitions in scope, the environment is that inside of the block's node. -/
theorem entering_matches {entries : List Entry} {state : State} (position : Position)
    (full : entries.isEmpty = false) (matched : env.Matches height state.scope)
    (isLocal : ∀ entry ∈ entries, entry.node.Local) :
    (env.inside entries).Matches height (state.entering (slots position entries)).scope := by
  simp only [Env.inside, full, Bool.false_eq_true, if_false]
  refine .block (Keyed.Aligned.ofPairs fun entry member => ?_) matched
  exact ⟨rfl, isLocal entry member⟩

theorem withLayer_decides {α : Type} {right possible : α → Prop} {entries : List Entry}
    (position : Position) (full : entries.isEmpty = false)
    (isLocal : ∀ entry ∈ entries, entry.node.Local) {body : Compile α}
    (inside : body.Decides (env.inside entries) height right possible) :
    (Compile.withLayer (slots position entries) body).Decides env height right possible := by
  intro state matched
  obtain ⟨gives, refuses⟩ := inside _ (entering_matches position full matched isLocal)
  refine ⟨fun a after ran => ?_, fun error after ran => ?_⟩
  · obtain ⟨inner, ended, rfl⟩ := Compile.withLayer_ok ran
    obtain ⟨fits, inside⟩ := gives a inner ended
    simp only [Env.inside, full, Bool.false_eq_true, if_false] at inside
    generalize inner.scope = scope at inside
    cases inside with
    | block _ outer => exact ⟨fits, outer⟩
  · obtain ⟨ended, rfl⟩ := Prod.mk.inj ran
    exact refuses error _ (Prod.ext ended rfl)

/-- Whatever a computation decides in each environment it decides inside a node, where all bodies of
the node have types too. -/
theorem within_decides {α : Type} {right possible : Env → α → Prop} (restores : compile.Restores)
    (decides : compile.Decides) {members : Members} {body : Compile α}
    (isLocal : ∀ entries, Definitions.entries members = .ok entries →
      ∀ entry ∈ entries, entry.node.Local)
    (inside : ∀ env, body.Decides env height (right env) (possible env)) :
    (within compile members body).Decides env height
      (fun a => ∃ entries, Definitions.entries members = .ok entries ∧
        (∀ definition ∈ effective entries, ∃ ty, Derives (env.inside entries) definition.2 ty) ∧
        right (env.inside entries) a)
      (fun a => ∃ entries, Definitions.entries members = .ok entries ∧
        (∀ definition ∈ effective entries,
          ∃ ty, DerivesIn height (env.inside entries) definition.2 ty) ∧
        possible (env.inside entries) a) := by
  refine (Compile.Decides.ofExcept _).bind (fun entries read => ?_) fun a b left right =>
    Except.ok.inj (left.symm.trans right)
  split
  · next empty =>
    obtain rfl := List.isEmpty_iff.mp empty
    refine (inside env).imp (fun a fits => ⟨?_, fits⟩) fun a possible => possible.2
    simp [effective, Keyed.ofPairs, Keyed.insertAll]
  · next full =>
    have named : (do resolveAll compile entries; body).Decides (env.inside entries) height
        (fun a => ∃ _ : Unit, (∀ entry ∈ entries,
          ∃ ty, (env.inside entries).Means Derives entry.name ty) ∧ right (env.inside entries) a)
        (fun a => ∃ _ : Unit, (∀ entry ∈ entries,
          ∃ ty, (env.inside entries).Means (DerivesIn height) entry.name ty) ∧
            possible (env.inside entries) a) :=
      (resolveAll_decides restores decides entries).bind (fun _ _ => inside _) fun _ _ _ _ => rfl
    refine .after_note (.after_read fun position => ?_)
    refine withLayer_decides position (by simpa using full) (isLocal entries read)
      (named.imp ?_ ?_)
    · rintro a ⟨_, means, fits⟩
      exact ⟨Env.means_entries.mp means, fits⟩
    · rintro a ⟨bodies, fits⟩
      exact ⟨(), Env.means_entries.mpr bodies, fits⟩

end Definitions

namespace Node

variable {compile : NodeCompiler}

/-- A local reference is resolved as the name that it is, or is no reference at all. -/
theorem reference_decides (loader : Loader) (restores : compile.Restores)
    (decides : compile.Decides) {members : Members} (isLocal : (Json.obj members).Local)
    {reference : String} (named : members.get? "$ref" = some (.str reference)) :
    (Reference.resolve loader compile reference).Decides env height
      (Rule Derives env (.obj members)) (Rule (DerivesIn height) env (.obj members)) := by
  obtain ⟨fragment, inside⟩ := isLocal.reference named
  have only {ty : Ty} (rule : Rule (DerivesIn height) env (.obj members) ty) :
      ∃ name, Reference.definitionName? fragment = some name ∧
        env.Means (DerivesIn height) name ty := by
    cases rule with
    | reference other names means =>
      rw [named] at other
      cases other
      obtain ⟨fragment', inside', names⟩ := Reference.names_iff.mp names
      rw [inside] at inside'
      cases inside'
      exact ⟨_, names, means⟩
    | node plain =>
      rw [named] at plain
      cases plain
  refine .after_note ?_
  simp only [inside]
  cases names : Reference.definitionName? fragment with
  | none =>
    refine .fail fun ty rule => ?_
    obtain ⟨name, names', -⟩ := only rule
    rw [names] at names'
    cases names'
  | some name =>
    refine (Definitions.resolve_decides restores decides name reference).imp
      (fun ty means => .reference named (Reference.names_iff.mpr ⟨fragment, inside, names⟩) means)
      fun ty rule => ?_
    obtain ⟨name', names', means⟩ := only rule
    rw [names] at names'
    cases names'
    exact means

theorem object_decides (loader : Loader) (restores : compile.Restores) (decides : compile.Decides)
    {members : Members} (isLocal : (Json.obj members).Local) :
    (object loader compile members).Decides env height (Rule Derives env (.obj members))
      (Rule (DerivesIn height) env (.obj members)) := by
  unfold object
  split
  · next reference named => exact reference_decides loader restores decides isLocal named
  · next value odd named =>
    refine .fail fun ty rule => ?_
    cases rule with
    | reference other =>
      rw [named] at other
      cases other
      exact odd _ rfl
    | node plain =>
      rw [named] at plain
      cases plain
  · next plain =>
    have inner (env : Env) : ((body members).run compile).Decides env height
        ((body members).Yields (Derives env)) ((body members).Yields (DerivesIn height env)) :=
      Plan.run_decides decides (body_visits.imp fun path node part => isLocal.part part)
    have noted : ((noteIgnored members ignoredKeywords).run compile).Decides env height
        (fun _ => True) (fun _ => True) :=
      (Plan.run_decides decides noteIgnored_visits).imp (fun _ _ => trivial)
        fun _ _ => noteIgnored_yields
    have whole := noted.bind (fun _ _ => Definitions.within_decides restores decides
      (fun entries read => isLocal.entry read) inner) fun _ _ _ _ => rfl
    refine whole.imp ?_ ?_
    · rintro ty ⟨_, _, entries, read, bodies, given⟩
      exact .node plain read bodies (composed_of_yields given)
    · intro ty rule
      cases rule with
      | reference other =>
        rw [plain] at other
        cases other
      | node _ read bodies composed =>
        exact ⟨(), trivial, _, read, bodies, yields_of_composed composed⟩

theorem step_decides (loader : Loader) (restores : compile.Restores) (decides : compile.Decides) :
    NodeCompiler.Decides (step loader compile) := by
  intro env height node isLocal
  refine .after_note ?_
  cases node with
  | obj members =>
    have noted : (do
        let ty ← object loader compile members
        Compile.note (.compiled · (.obj members) ty)
        pure ty : Compile Ty).Decides env height
          (fun b => ∃ ty, Rule Derives env (.obj members) ty ∧ b = ty)
          (fun b => ∃ ty, Rule (DerivesIn height) env (.obj members) ty ∧ b = ty) :=
      (object_decides loader restores decides isLocal).bind
        (fun ty _ => .after_note (.pure rfl)) fun a b left right =>
          (Derives.of_rule left).unique ⟨height + 1, right⟩
    refine noted.imp ?_ ?_
    · rintro a ⟨ty, rule, rfl⟩
      exact Derives.of_rule rule
    · exact fun a rule => ⟨a, rule, rfl⟩
  | _ =>
    refine .fail fun ty rule => ?_
    cases rule

theorem compile_decides (loader : Loader) (depth : Nat) :
    NodeCompiler.Decides (Node.compile loader depth) := by
  induction depth with
  | zero =>
    refine fun env height node _ state matched => ⟨?_, ?_⟩
    · rintro _ _ ⟨⟩
    · rintro _ _ ⟨⟩
      exact Or.inl rfl
  | succ depth ih => exact step_decides loader (compile_restores loader depth) ih

end Node

end SchemaTypes
