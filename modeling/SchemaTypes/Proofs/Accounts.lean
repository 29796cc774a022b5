import SchemaTypes.Proofs.Fragments
import SchemaTypes.Proofs.Whereabouts

/-! What a good run accounts for while a document is open. Every node that it took up it has compiled,
and where no block of definitions lies around a node of the document but that of its root, the run
compiled the node from a state that can be had again: with no layers inside of the root's own. -/
namespace SchemaTypes

/-- A block of definitions was met in the document of a position, strictly between the root and the
position. -/
def Position.Enclosed (events : List Event) (position : Position) : Prop :=
  ∃ count outer inner, outer ≠ [] ∧ inner ≠ [] ∧ position.path = outer ++ inner ∧
    .harvesting count ⟨position.document, outer⟩ ∈ events

/-- A node was compiled to a type while a document was open and the current one, and in the end no
more was known than a scope knows. -/
def Json.Retraceable (loader : Loader) (here : Location) (scope : Scope) (node : Json) (ty : Ty) :
    Prop :=
  ∃ depth before after, Node.compile loader depth node before = (.ok ty, after) ∧
    before.position.document = some here ∧ here.key ∈ before.opened ∧ after.scope.Promises scope

/-- Paths of a document at which nodes may be compiled: the root is not one of them. -/
structure Homes (home : List String → Prop) : Prop where
  root : ¬home []
  below : ∀ {path}, home path → ∀ segments, home (path ++ segments)

section

variable (loader : Loader) (here : Location) (home : List String → Prop)

/-- A position at which a node may be compiled with `n` layers inside of the root's own. -/
def Position.Fits (n : Nat) (events : List Event) (position : Position) : Prop :=
  position.document = some here → home position.path ∧ (0 < n → position.Enclosed events)

/-- What holds of the place of a body that waits. -/
def Slot.Waits (holds : Position → Prop) : Slot → Prop
  | .pending definition => holds definition.position
  | _ => True

/-- A document is open, with `n` layers inside of the root's own, and all outside of that is known.
Bodies that wait are declared where they may be compiled. -/
structure State.Hosts (n : Nat) (state : State) : Prop where
  opened : here.key ∈ state.opened
  inner : Scope.Each (Slot.Waits (Position.Fits here home 1 state.journal)) (state.scope.take n)
  outer : Scope.Each (Slot.Waits (Position.Fits here home 0 state.journal)) (state.scope.drop n)
  settled : Scope.Settled (state.scope.drop (n + 1))

/-- Between two states, all nodes that were taken up were compiled, and those of the document can be
retraced where nothing encloses them. -/
structure State.Accounts (n : Nat) (before after : State) : Prop where
  journal : ∀ event ∈ before.journal, event ∈ after.journal
  scope : Scope.Promises (before.scope.drop n) (after.scope.drop n)
  closed : ∀ position node, .visited position node ∈ after.journal →
    .visited position node ∈ before.journal ∨ ∃ ty, .compiled position node ty ∈ after.journal
  traced : ∀ path node ty, .compiled ⟨some here, path⟩ node ty ∈ after.journal →
    .compiled ⟨some here, path⟩ node ty ∈ before.journal ∨ home path ∧
      (Position.Enclosed after.journal ⟨some here, path⟩ ∨
        node.Retraceable loader here (after.scope.drop n) ty)

/-- Whenever a computation ends well, it accounts for what it did. -/
def Compile.AccountsFrom {α : Type} (n : Nat) (body : Compile α) (state : State) : Prop :=
  ∀ a after, body state = (.ok a, after) → State.Accounts loader here home n state after

/-- A compiler that accounts for nodes at positions that fit. -/
def NodeCompiler.Accounts (compile : NodeCompiler) : Prop :=
  ∀ n node state, State.Hosts here home n state →
    state.position.Fits here home n state.journal →
    (compile node).AccountsFrom loader here home n state

end

variable {loader : Loader} {here : Location} {home : List String → Prop} {n : Nat}
  {state middle after : State} {events events' : List Event} {position : Position}

/-! ## Positions and journals that grow -/

namespace Position

theorem Enclosed.mono (enclosed : position.Enclosed events)
    (grown : ∀ event ∈ events, event ∈ events') : position.Enclosed events' := by
  obtain ⟨count, outer, inner, some, more, parts, met⟩ := enclosed
  exact ⟨count, outer, inner, some, more, parts, grown _ met⟩

theorem Enclosed.below (enclosed : position.Enclosed events) (segments : List String) :
    (position.below segments).Enclosed events := by
  obtain ⟨count, outer, inner, some, more, parts, met⟩ := enclosed
  refine ⟨count, outer, inner ++ segments, some, by simp [more], ?_, met⟩
  simp [Position.below, parts]

theorem Fits.mono (fits : position.Fits here home n events)
    (grown : ∀ event ∈ events, event ∈ events') : position.Fits here home n events' :=
  fun inside => (fits inside).imp_right fun enclosed some => (enclosed some).mono grown

theorem Fits.below (homes : Homes home) (fits : position.Fits here home n events)
    (segments : List String) : (position.below segments).Fits here home n events := by
  intro inside
  obtain ⟨stands, enclosed⟩ := fits inside
  exact ⟨homes.below stands segments, fun some => (enclosed some).below segments⟩

/-- Below a node that has definitions of its own everything is enclosed. -/
theorem Fits.within (homes : Homes home) (fits : position.Fits here home n events) {count : Nat}
    {segments : List String} (more : segments ≠ []) :
    (position.below segments).Fits here home (n + 1) (.harvesting count position :: events) := by
  intro inside
  obtain ⟨stands, -⟩ := fits inside
  refine ⟨homes.below stands segments, fun _ => ?_⟩
  refine ⟨count, position.path, segments, ?_, more, rfl, List.mem_cons_self⟩
  intro root
  rw [root] at stands
  exact homes.root stands

theorem Fits.of_pos {m : Nat} (fits : position.Fits here home (n + 1) events) :
    position.Fits here home m events :=
  fun inside => (fits inside).imp_right fun enclosed _ => enclosed n.succ_pos

/-- Elsewhere everything fits. -/
theorem Fits.elsewhere (other : position.document ≠ some here) :
    position.Fits here home n events :=
  fun inside => (other inside).elim

end Position

/-! ## States that host a document -/

theorem Scope.Each.waits {holds holds' : Position → Prop} {scope : Scope}
    (every : scope.Each (Slot.Waits holds))
    (weaker : ∀ position, holds position → holds' position) : scope.Each (Slot.Waits holds') := by
  intro layer member name slot found
  have waits := every layer member name slot found
  cases slot with
  | pending definition => exact weaker _ waits
  | ready | compiling => trivial

/-- Bodies that wait in a scope that has only moved on waited there before. -/
theorem Scope.Each.settles {holds : Position → Prop} {failed : Bool} {scope scope' : Scope}
    (every : scope.Each (Slot.Waits holds)) (settled : Scope.Settles failed events scope scope') :
    scope'.Each (Slot.Waits holds) := by
  refine settled.forall_layers (fun left right moved before name slot found => ?_) every
  obtain ⟨slot', found', step⟩ := moved.slots.flip.lookup found
  have waits := before name slot' found'
  cases step with
  | same => exact waits
  | filled | broken => trivial

namespace State.Hosts

theorem grown (hosts : State.Hosts here home n state)
    (more : ∀ event ∈ state.journal, event ∈ events) :
    State.Hosts here home n { state with journal := events } :=
  ⟨hosts.opened, hosts.inner.waits fun _ fits => fits.mono more,
    hosts.outer.waits fun _ fits => fits.mono more, hosts.settled⟩

/-- A state that has only moved on hosts the document as well. -/
theorem restored (hosts : State.Hosts here home n state)
    (kept : State.Kept false events state after) : State.Hosts here home n after := by
  have more : ∀ event ∈ state.journal, event ∈ after.journal := by
    intro event member
    rw [kept.journal]
    exact List.mem_append_right _ member
  obtain ⟨opened, inner, outer, settled⟩ := hosts.grown more
  refine ⟨kept.opened ▸ opened, inner.settles (List.forall₂_take n kept.scope),
    outer.settles (List.forall₂_drop n kept.scope), ?_⟩
  rw [Scope.Settles.eq_of_settled (List.forall₂_drop (n + 1) kept.scope) settled]
  exact settled

end State.Hosts

theorem Scope.Each.take_set {holds : Slot → Prop} {layer : Layer} {outer : Scope} {name : String}
    {slot : Slot} {m : Nat} (every : Scope.Each holds ((layer :: outer).take m))
    (fits : holds slot) : Scope.Each holds ((layer.set name slot :: outer).take m) := by
  cases m with
  | zero => exact every
  | succ m => exact every.set fits

theorem Scope.Each.drop_set {holds : Slot → Prop} {layer : Layer} {outer : Scope} {name : String}
    {slot : Slot} {m : Nat} (every : Scope.Each holds ((layer :: outer).drop m))
    (fits : holds slot) : Scope.Each holds ((layer.set name slot :: outer).drop m) := by
  cases m with
  | zero => exact every.set fits
  | succ m => exact every

/-! ## One computation after another -/

namespace State.Accounts

theorem refl (state : State) : State.Accounts loader here home n state state :=
  ⟨fun _ => id, .refl _, fun _ _ => .inl, fun _ _ _ => .inl⟩

theorem trans (first : State.Accounts loader here home n state middle)
    (second : State.Accounts loader here home n middle after) :
    State.Accounts loader here home n state after where
  journal event member := second.journal event (first.journal event member)
  scope := first.scope.trans second.scope
  closed position node visited := by
    rcases second.closed position node visited with before | compiled
    · exact (first.closed position node before).imp_right fun ⟨ty, compiled⟩ =>
        ⟨ty, second.journal _ compiled⟩
    · exact .inr compiled
  traced path node ty compiled := by
    rcases second.traced path node ty compiled with before | traced
    · refine (first.traced path node ty before).imp_right fun ⟨stands, traced⟩ => ⟨stands, ?_⟩
      rcases traced with enclosed | ⟨depth, start, last, ran, inside, opened, promises⟩
      · exact .inl (enclosed.mono second.journal)
      · exact .inr ⟨depth, start, last, ran, inside, opened, promises.trans second.scope⟩
    · exact .inr traced

/-- Notes about other things than nodes need no account. -/
theorem noted {event : Event} (unvisited : ∀ position node, event ≠ .visited position node)
    (uncompiled : ∀ position node ty, event ≠ .compiled position node ty) :
    State.Accounts loader here home n state
      { state with journal := event :: state.journal } where
  journal _ := List.mem_cons_of_mem _
  scope := .refl _
  closed position node visited := by
    rcases List.mem_cons.mp visited with own | before
    · exact (unvisited _ _ own.symm).elim
    · exact .inl before
  traced path node ty compiled := by
    rcases List.mem_cons.mp compiled with own | before
    · exact (uncompiled _ _ _ own.symm).elim
    · exact .inl before

/-- What is accounted for with one layer more is so when the layer is taken away. -/
theorem leaving {slots : List (String × Slot)}
    (inside : State.Accounts loader here home (n + 1) (state.entering slots) after) :
    State.Accounts loader here home n state { after with scope := after.scope.drop 1 } := by
  obtain ⟨journal, scope, closed, traced⟩ := inside
  rw [Nat.add_comm, ← List.drop_drop, ← List.drop_drop] at scope
  rw [Nat.add_comm, ← List.drop_drop] at traced
  exact ⟨journal, scope, closed, traced⟩

end State.Accounts

namespace Compile.AccountsFrom

variable {α β : Type} {body : Compile α}

theorem pure (a : α) : (Pure.pure a : Compile α).AccountsFrom loader here home n state := by
  intro b after ran
  cases ran
  exact .refl state

theorem fail (fault : Fault) :
    (Compile.fail fault : Compile α).AccountsFrom loader here home n state :=
  fun _ _ ran => nomatch ran

theorem note {event : Position → Event}
    (unvisited : ∀ position place node, event position ≠ .visited place node)
    (uncompiled : ∀ position place node ty, event position ≠ .compiled place node ty) :
    (Compile.note event).AccountsFrom loader here home n state := by
  intro a after ran
  cases ran
  exact .noted (unvisited _) (uncompiled _)

theorem bind {next : α → Compile β} (first : body.AccountsFrom loader here home n state)
    (rest : ∀ a middle, body state = (.ok a, middle) →
      (next a).AccountsFrom loader here home n middle) :
    (body >>= next).AccountsFrom loader here home n state := by
  intro b after ran
  obtain ⟨a, middle, firstRan, nextRan⟩ := bind_ok ran
  exact (first a middle firstRan).trans (rest a middle firstRan b after nextRan)

theorem read {look : State → α} {next : α → Compile β}
    (rest : (next (look state)).AccountsFrom loader here home n state) :
    (Compile.read look >>= next).AccountsFrom loader here home n state := rest

theorem under {segments : List String}
    (inside : body.AccountsFrom loader here home n
      { state with position := state.position.below segments }) :
    (Compile.under segments body).AccountsFrom loader here home n state := by
  intro a after ran
  obtain ⟨inner, ended, rfl⟩ := under_ok ran
  obtain ⟨journal, scope, closed, traced⟩ := inside a inner ended
  exact ⟨journal, scope, closed, traced⟩

theorem within {position : Position}
    (inside : body.AccountsFrom loader here home n { state with position }) :
    (Compile.within position body).AccountsFrom loader here home n state := by
  intro a after ran
  obtain ⟨inner, ended, rfl⟩ := within_ok ran
  obtain ⟨journal, scope, closed, traced⟩ := inside a inner ended
  exact ⟨journal, scope, closed, traced⟩

end Compile.AccountsFrom

/-- A plan accounts for the nodes that it visits when their positions fit. -/
theorem Plan.run_accounts {α : Type} {compile : NodeCompiler} (restores : compile.Restores)
    (accounts : compile.Accounts loader here home) {plan : Plan α}
    {visited : List String → Json → Prop} (visits : plan.Visits visited)
    (hosts : State.Hosts here home n state)
    (fits : ∀ path node, visited path node →
      (state.position.below path).Fits here home n state.journal) :
    (plan.run compile).AccountsFrom loader here home n state := by
  induction plan generalizing visited state with
  | done a => exact .pure a
  | fail fault => exact .fail fault
  | note remark => exact .note (by simp) (by simp)
  | visit node =>
    have here := fits [] node visits
    rw [Position.below_nil] at here
    exact accounts n node state hosts here
  | under segments plan ih =>
    refine .under (ih visits ⟨hosts.opened, hosts.inner, hosts.outer, hosts.settled⟩ ?_)
    intro path node there
    rw [Position.below_below]
    exact fits _ node there
  | andThen first next firstIH nextIH =>
    refine .bind (firstIH visits.1 hosts fits) fun a middle ran => ?_
    obtain ⟨events, kept⟩ := run_restores restores first state
    rw [ran] at kept
    refine nextIH a (visits.2 a (run_canGive ran)) (hosts.restored kept) fun path node there => ?_
    rw [kept.position, kept.journal]
    exact (fits path node there).mono fun _ => List.mem_append_right _

/-! ## Names -/

namespace Definitions

variable {compile : NodeCompiler} {name reference : String}

/-- A body that waits is compiled with no more layers inside of the root's own than its block has. -/
theorem demand_accounts (restores : compile.Restores)
    (accounts : compile.Accounts loader here home) (hosts : State.Hosts here home n state)
    {binding : Scope.Binding} {definition : Definition}
    (found : state.scope.find? name = some binding)
    (declared : binding.slot = .pending definition) :
    (demand compile binding.level name definition).AccountsFrom loader here home n state := by
  intro ty after ran
  obtain ⟨whole, kept⟩ := demand_restores restores found declared
  rw [ran] at kept
  obtain ⟨hidden, layer, outer, parts, level, -, slot, -⟩ := Scope.located found
  rw [declared] at slot
  rw [level] at ran
  have deep : hidden.length ≤ n := by
    by_contra less
    have known : layer ∈ state.scope.drop (n + 1) := by
      rw [parts, List.drop_append_of_le_length (by omega)]
      exact List.mem_append_right _ List.mem_cons_self
    obtain ⟨ty, ready⟩ := hosts.settled layer known _ (Keyed.mem_of_lookup slot)
    cases ready
  obtain ⟨m, rfl⟩ := Nat.exists_eq_add_of_le deep
  obtain ⟨opened, inner, outer', settled⟩ := hosts
  rw [parts, List.take_length_add_append] at inner
  rw [parts, List.drop_length_add_append] at outer'
  rw [parts, Nat.add_assoc, List.drop_length_add_append] at settled
  have inside := inner.of_append.2
  have marked : State.Hosts here home m (demanding state name definition layer outer) :=
    ⟨opened, inside.take_set trivial, outer'.drop_set trivial, settled⟩
  have fits : definition.position.Fits here home m state.journal := by
    cases m with
    | zero => exact outer' layer List.mem_cons_self name _ slot
    | succ m => exact (inside layer List.mem_cons_self name _ slot).of_pos
  obtain ⟨final, last, rest, compiled, same, -, -, rfl⟩ := demand_ok restores parts ran
  obtain ⟨journal, -, closed, traced⟩ :=
    accounts m definition.node _ marked fits ty final compiled
  refine ⟨journal, Scope.Settles.promises (List.forall₂_drop _ kept.scope), closed, ?_⟩
  -- The body was compiled with its slot marked, where nothing was known that is not known now.
  obtain ⟨events, restored, -⟩ :=
    restores definition.node (demanding state name definition layer outer)
  rw [compiled] at restored
  have settles := restored.scope
  rw [same] at settles traced
  have filled : Scope.Promises ((last :: rest).drop m) ((last.set name (.ready ty) :: rest).drop m) := by
    cases m with
    | zero => exact Scope.promises_set (List.forall₂_cons.mp settles).1.compiling (by simp)
    | succ m => exact .refl _
  intro path node type noted
  dsimp only
  rw [List.drop_length_add_append]
  refine (traced path node type noted).imp_right fun ⟨stands, traced⟩ => ⟨stands, ?_⟩
  refine traced.imp_right fun ⟨depth, start, ended, ran, document, opened, promises⟩ => ?_
  exact ⟨depth, start, ended, ran, document, opened, promises.trans filled⟩

theorem settle_accounts (restores : compile.Restores)
    (accounts : compile.Accounts loader here home) (hosts : State.Hosts here home n state)
    {binding : Scope.Binding} (found : state.scope.find? name = some binding) :
    (settle compile name reference binding).AccountsFrom loader here home n state := by
  unfold settle
  split
  · exact .pure _
  · exact .fail _
  · next definition declared => exact demand_accounts restores accounts hosts found declared

theorem resolve_accounts (restores : compile.Restores)
    (accounts : compile.Accounts loader here home) (hosts : State.Hosts here home n state) :
    (resolve compile name reference).AccountsFrom loader here home n state := by
  intro ty after ran
  cases found : state.scope.find? name with
  | none =>
    rw [resolve_of_none found] at ran
    cases ran
  | some binding =>
    rw [resolve_of_some found] at ran
    refine Compile.AccountsFrom.bind (settle_accounts restores accounts hosts found)
      (fun _ _ _ => ?_) ty after ran
    exact .bind (.note (by simp) (by simp)) fun _ _ _ => .pure _

theorem resolveAll_accounts (restores : compile.Restores)
    (accounts : compile.Accounts loader here home) (entries : List Entry)
    (hosts : State.Hosts here home n state) :
    (resolveAll compile entries).AccountsFrom loader here home n state := by
  induction entries generalizing state with
  | nil => exact .pure ()
  | cons entry rest ih =>
    refine .bind (resolve_accounts restores accounts hosts) fun ty middle ran => ih ?_
    obtain ⟨events, kept⟩ := resolve_restores restores entry.name entry.reference state
    rw [ran] at kept
    exact hosts.restored kept

/-- The definitions of a node that fits come into scope. -/
theorem hosts_declaring (homes : Homes home) (hosts : State.Hosts here home n state)
    (fits : state.position.Fits here home n state.journal) (first : Entry) (rest : List Entry) :
    State.Hosts here home (n + 1) (state.declaring (first :: rest)) ∧
      ∀ segments ≠ [], (state.position.below segments).Fits here home (n + 1)
        (state.declaring (first :: rest)).journal := by
  have below (segments : List String) (more : segments ≠ []) :
      (state.position.below segments).Fits here home (n + 1)
        (state.declaring (first :: rest)).journal := fits.within homes more
  have more : ∀ event ∈ state.journal, event ∈ (state.declaring (first :: rest)).journal :=
    fun _ => List.mem_cons_of_mem _
  obtain ⟨opened, inner, outer, settled⟩ := hosts.grown more
  refine ⟨⟨opened, inner.cons ?_, outer, settled⟩, below⟩
  rintro ⟨name, slot⟩ member
  obtain ⟨entry, -, -, rfl⟩ := mem_slots member
  exact (below [entry.keyword, entry.name] (by simp)).of_pos

/-- What a node does with its definitions in scope, it does with one layer more if there are any. -/
theorem within_accounts {α : Type} (homes : Homes home) (restores : compile.Restores)
    (accounts : compile.Accounts loader here home) {members : Members} {body : Compile α}
    (hosts : State.Hosts here home n state) (fits : state.position.Fits here home n state.journal)
    (inside : ∀ m state', State.Hosts here home m state' → state'.position = state.position →
      (∀ segments ≠ [], (state'.position.below segments).Fits here home m state'.journal) →
      body.AccountsFrom loader here home m state') :
    (within compile members body).AccountsFrom loader here home n state := by
  intro a after ran
  obtain ⟨entries, inner, -, ended, rfl⟩ := within_ok ran
  cases entries with
  | nil => exact inside n state hosts rfl (fun segments _ => fits.below homes segments) a inner ended
  | cons first rest =>
    obtain ⟨declared, below⟩ := hosts_declaring homes hosts fits first rest
    have whole : (do resolveAll compile (first :: rest); body : Compile α).AccountsFrom loader here
        home (n + 1) (state.declaring (first :: rest)) := by
      refine .bind (resolveAll_accounts restores accounts _ declared) fun _ middle ran => ?_
      obtain ⟨events, kept⟩ := resolveAll_restores restores (first :: rest)
        (state.declaring (first :: rest))
      rw [ran] at kept
      have position := kept.position.trans State.declaring_position
      refine inside (n + 1) middle (declared.restored kept) position fun segments more => ?_
      rw [position, kept.journal]
      exact (below segments more).mono fun _ => List.mem_append_right _
    refine .trans (.noted (by simp) (by simp)) (.leaving (whole a inner ended))

end Definitions

/-! ## Other documents -/

namespace Reference

variable {compile : NodeCompiler} {reference : String}

/-- In another document every position fits. -/
theorem document_accounts (homes : Homes home) (restores : compile.Restores)
    (accounts : compile.Accounts loader here home) (fragment : String) (document : Json)
    (hosts : State.Hosts here home n state) (other : state.position.document ≠ some here) :
    (Reference.document compile reference fragment document).AccountsFrom loader here home n
      state := by
  unfold Reference.document
  split
  · exact accounts n document state hosts (.elsewhere other)
  · split
    · refine Definitions.within_accounts homes restores accounts hosts (.elsewhere other)
        fun m state' hosts' position _ => ?_
      split
      · exact Definitions.resolve_accounts restores accounts hosts'
      · split
        · next node _ =>
          have outside : state'.position.document ≠ some here := position ▸ other
          exact .read (.within (accounts m node _
            ⟨hosts'.opened, hosts'.inner, hosts'.outer, hosts'.settled⟩ (.elsewhere outside)))
        · exact .fail _
    · exact .fail _

theorem external_accounts (homes : Homes home) (restores : compile.Restores)
    (accounts : compile.Accounts loader here home) (hosts : State.Hosts here home n state) :
    (external loader compile reference).AccountsFrom loader here home n state := by
  intro ty after ran
  obtain ⟨closed, document, inner, -, ended, rfl⟩ := external_ok ran
  have more : ∀ event ∈ state.journal,
      event ∈ (entered loader (target reference state) state).journal :=
    fun _ => List.mem_cons_of_mem _
  obtain ⟨opened, waiting, outer, settled⟩ := hosts.grown more
  have hosting : State.Hosts here home n (entered loader (target reference state) state) :=
    ⟨List.mem_cons_of_mem _ opened, waiting, outer, settled⟩
  have other : some (target reference state) ≠ some here := by
    intro same
    rw [Option.some.inj same] at closed
    exact closed hosts.opened
  have inside : State.Accounts loader here home n
      (entered loader (target reference state) state) inner :=
    document_accounts homes restores accounts _ document hosting other ty inner ended
  have opening : State.Accounts loader here home n state
      (entered loader (target reference state) state) := by
    obtain ⟨journal, scope, finished, traced⟩ := @State.Accounts.noted loader here home n state
      (.opening (target reference state) loader.announces) (by simp) (by simp)
    exact ⟨journal, scope, finished, traced⟩
  obtain ⟨journal, scope, finished, traced⟩ := opening.trans inside
  exact ⟨journal, scope, finished, traced⟩

theorem resolve_accounts (homes : Homes home) (restores : compile.Restores)
    (accounts : compile.Accounts loader here home) (hosts : State.Hosts here home n state) :
    (resolve loader compile reference).AccountsFrom loader here home n state := by
  refine .bind (.note (by simp) (by simp)) fun _ middle ran => ?_
  cases ran
  have noted := hosts.grown
    fun _ => List.mem_cons_of_mem (Event.resolving reference state.position)
  split
  · split
    · exact Definitions.resolve_accounts restores accounts noted
    · exact .fail _
  · exact external_accounts homes restores accounts noted

end Reference

/-! ## Nodes -/

namespace Node

variable {compile : NodeCompiler}

theorem Part.path_ne_nil {members : Members} {path : List String} {node : Json}
    (part : Part members path node) : path ≠ [] := by
  cases part <;> simp

theorem object_accounts (homes : Homes home) (restores : compile.Restores)
    (accounts : compile.Accounts loader here home) {members : Members}
    (hosts : State.Hosts here home n state)
    (fits : state.position.Fits here home n state.journal) :
    (object loader compile members).AccountsFrom loader here home n state := by
  unfold object
  split
  · exact Reference.resolve_accounts homes restores accounts hosts
  · exact .fail _
  · have nothing : (noteIgnored members ignoredKeywords).Visits fun _ _ => False :=
      noteIgnored_visits
    refine .bind (Plan.run_accounts restores accounts nothing hosts fun _ _ => False.elim)
      fun _ middle ran => ?_
    obtain ⟨events, kept⟩ := Plan.run_restores restores (noteIgnored members ignoredKeywords) state
    rw [ran] at kept
    refine Definitions.within_accounts homes restores accounts (hosts.restored kept) ?_
      fun m state' hosts' position below => ?_
    · rw [kept.position, kept.journal]
      exact fits.mono fun _ => List.mem_append_right _
    · exact Plan.run_accounts restores accounts body_visits hosts'
        fun path node part => below path part.path_ne_nil

/-- A good run over a node: the node is noted, compiled as an object, and noted with its type. -/
theorem step_ok (restores : compile.Restores) {node : Json} {ty : Ty}
    (ran : step loader compile node state = (.ok ty, after)) :
    ∃ members middle, node = .obj members ∧
      object loader compile members (state.visiting node) = (.ok ty, middle) ∧
      middle.position = state.position ∧
      after = { middle with journal := .compiled state.position node ty :: middle.journal } := by
  obtain ⟨_, _, noted, ran⟩ := Compile.bind_ok ran
  cases noted
  cases node with
  | obj members =>
    obtain ⟨type, middle, compiled, noted⟩ := Compile.bind_ok ran
    cases noted
    obtain ⟨events, kept⟩ :=
      object_restores loader restores members (state.visiting (.obj members))
    rw [show object loader compile members (state.visiting (.obj members)) = _ from compiled] at kept
    have place : middle.position = state.position := kept.position
    exact ⟨members, middle, rfl, compiled, place, by rw [place]⟩
  | _ => cases ran

/-- A node is accounted for by its own run when nothing encloses it. -/
theorem step_accounts (homes : Homes home) {depth : Nat}
    (accounts : (Node.compile loader depth).Accounts loader here home) :
    (Node.compile loader (depth + 1)).Accounts loader here home := by
  intro n node state hosts fits ty after ran
  have restores := Node.compile_restores loader depth
  obtain ⟨members, middle, rfl, compiled, -, rfl⟩ := step_ok restores ran
  have more : ∀ event ∈ state.journal, event ∈ (state.visiting (.obj members)).journal :=
    fun _ => List.mem_cons_of_mem _
  obtain ⟨journal, scope, closed, traced⟩ := object_accounts homes restores accounts
    (hosts.grown more) (fits.mono more) ty middle compiled
  refine ⟨fun event member => ?_, scope, fun position node visited => ?_,
    fun path node type noted => ?_⟩
  · exact List.mem_cons_of_mem _ (journal event (more event member))
  · rcases List.mem_cons.mp visited with own | visited
    · cases own
    rcases closed position node visited with before | ⟨type, done⟩
    · rcases List.mem_cons.mp before with own | before
      · cases own
        exact .inr ⟨ty, List.mem_cons_self⟩
      · exact .inl before
    · exact .inr ⟨type, List.mem_cons_of_mem _ done⟩
  · rcases List.mem_cons.mp noted with own | noted
    · simp only [Event.compiled.injEq] at own
      obtain ⟨place, rfl, rfl⟩ := own
      obtain ⟨stands, enclosed⟩ := fits (congrArg Position.document place.symm)
      rw [← place] at stands enclosed
      refine .inr ⟨stands, ?_⟩
      cases n with
      | zero =>
        exact .inr ⟨depth + 1, state, _, ran, congrArg Position.document place.symm,
          hosts.opened, .refl _⟩
      | succ n =>
        exact .inl ((enclosed n.succ_pos).mono fun event member =>
          List.mem_cons_of_mem _ (journal event (more event member)))
    · rcases traced path node type noted with before | ⟨stands, traced⟩
      · rcases List.mem_cons.mp before with own | before
        · cases own
        · exact .inl before
      · refine .inr ⟨stands, traced.imp_left fun enclosed => ?_⟩
        exact enclosed.mono fun _ => List.mem_cons_of_mem _

theorem compile_accounts (homes : Homes home) (loader : Loader) (depth : Nat) :
    (Node.compile loader depth).Accounts loader here home := by
  induction depth with
  | zero => exact fun _ _ _ _ _ _ _ ran => nomatch ran
  | succ depth ih => exact step_accounts homes ih

end Node

end SchemaTypes
