import SchemaTypes.Proofs.Body
import SchemaTypes.Proofs.Budget
import SchemaTypes.Proofs.Following
import SchemaTypes.Proofs.Harvest
import SchemaTypes.Proofs.Lexical

/-! Nodes of the schema itself in a scope where every name has its type already. There the state does
not matter any more: a node compiles to one type or to none, and what it compiles to is composed of
what its parts compile to. -/
namespace SchemaTypes

/-- No document is open, the current node is part of the schema itself, and this is the scope. -/
structure State.Inline (scope : Scope) (state : State) : Prop where
  document : state.position.document = none
  opened : state.opened = []
  scope : state.scope = scope

/-- A node of the schema itself compiles to a type in a scope. -/
def Scope.Compiles (loader : Loader) (scope : Scope) (node : Json) (ty : Ty) : Prop :=
  ∃ depth state after, state.Inline scope ∧ Node.compile loader depth node state = (.ok ty, after)

variable {loader : Loader} {scope scope' : Scope} {node : Json} {members members' : Members}
  {ty ty' : Ty} {state after : State} {depth : Nat}

/-- Computations that leave settled scopes as they are. -/
theorem State.Inline.kept {α : Type} {body : Compile α} {a : α} (inline : state.Inline scope)
    (settled : scope.Settled) (restores : body.Restores) (ran : body state = (.ok a, after)) :
    after.Inline scope := by
  obtain ⟨events, kept⟩ := restores state
  rw [ran] at kept
  obtain ⟨document, opened, rfl⟩ := inline
  exact ⟨by rw [kept.position, document], by rw [kept.opened, opened],
    kept.scope.eq_of_settled settled⟩

theorem State.inline_start (scope : Scope) :
    State.Inline scope { State.start .empty with scope } := ⟨rfl, rfl, rfl⟩

theorem State.Inline.noted (inline : state.Inline scope) (journal : List Event) :
    State.Inline scope { state with journal } := ⟨inline.document, inline.opened, inline.scope⟩

namespace Scope.Compiles

/-- What compiles in a settled scope compiles wherever as much is known, from every state and at
every depth that is large enough. -/
theorem anywhere (settled : scope.Settled) (promises : scope.Promises scope')
    (compiles : scope.Compiles loader node ty) :
    ∃ least, ∀ depth ≥ least, ∀ state : State, state.Inline scope' →
      ∃ after, Node.compile loader depth node state = (.ok ty, after) ∧ after.Inline scope' := by
  obtain ⟨least, first, last, inline, ran⟩ := compiles
  refine ⟨least, fun depth deep state there => ?_⟩
  have unchanged := (inline.kept settled ((Node.compile_restores loader least).node node) ran).scope
  obtain ⟨after, again, same⟩ := Node.compile_again (fun _ _ => id)
    (Node.compile_at_least ran deep) (there.document.trans inline.document.symm)
    (by simp [there.opened]) (by rw [unchanged, there.scope]; exact promises)
  obtain ⟨events, kept, -⟩ := Node.compile_restores loader depth node state
  rw [again] at kept
  exact ⟨after, again, kept.position ▸ there.document, kept.opened.trans there.opened,
    same.trans there.scope⟩

theorem mono (settled : scope.Settled) (promises : scope.Promises scope')
    (compiles : scope.Compiles loader node ty) : scope'.Compiles loader node ty := by
  obtain ⟨least, anywhere⟩ := compiles.anywhere settled promises
  have there := State.inline_start scope'
  obtain ⟨after, ran, -⟩ := anywhere least (Nat.le_refl _) _ there
  exact ⟨least, _, after, there, ran⟩

/-- There is one type at most. -/
theorem unique (settled : scope.Settled) (left : scope.Compiles loader node ty)
    (right : scope.Compiles loader node ty') : ty = ty' := by
  obtain ⟨least, anywhere⟩ := left.anywhere settled (.refl scope)
  obtain ⟨depth, state, after, inline, ran⟩ := right
  obtain ⟨after', ran', -⟩ := anywhere (max least depth) (Nat.le_max_left _ _) state inline
  rw [Node.compile_at_least ran (Nat.le_max_right least depth)] at ran'
  cases ran'
  rfl

end Scope.Compiles

/-! ## Bodies -/

section Plans

variable {α : Type} {plan : Plan α} {a : α}

theorem Plan.yields_of_run (settled : scope.Settled) (inline : state.Inline scope)
    (ran : plan.run (Node.compile loader depth) state = (.ok a, after)) :
    plan.Yields (scope.Compiles loader) a ∧ after.Inline scope := by
  induction plan generalizing state after with
  | done b =>
    cases ran
    exact ⟨rfl, inline⟩
  | fail fault => cases ran
  | note remark =>
    cases ran
    exact ⟨trivial, inline.noted _⟩
  | visit node =>
    exact ⟨⟨depth, state, after, inline, ran⟩,
      inline.kept settled ((Node.compile_restores loader depth).node node) ran⟩
  | under segments plan ih =>
    obtain ⟨inner, inside, rfl⟩ := Compile.under_ok ran
    have deeper : State.Inline scope
        { state with position.path := state.position.path ++ segments } :=
      ⟨inline.document, inline.opened, inline.scope⟩
    obtain ⟨given, document, opened, same⟩ := ih deeper inside
    exact ⟨given, document, opened, same⟩
  | andThen first next firstIH nextIH =>
    obtain ⟨b, middle, firstRan, nextRan⟩ := Compile.bind_ok ran
    obtain ⟨given, between⟩ := firstIH inline firstRan
    obtain ⟨given', ended⟩ := nextIH b between nextRan
    exact ⟨⟨b, given, given'⟩, ended⟩

theorem Plan.run_of_yields (settled : scope.Settled)
    (given : plan.Yields (scope.Compiles loader) a) :
    ∃ least, ∀ depth ≥ least, ∀ state : State, state.Inline scope →
      ∃ after, plan.run (Node.compile loader depth) state = (.ok a, after) ∧
        after.Inline scope := by
  induction plan with
  | done b =>
    cases given
    exact ⟨0, fun _ _ state inline => ⟨state, rfl, inline⟩⟩
  | fail fault => exact given.elim
  | note remark => exact ⟨0, fun _ _ state inline => ⟨_, rfl, inline.noted _⟩⟩
  | visit node => exact Scope.Compiles.anywhere settled (.refl scope) given
  | under segments plan ih =>
    obtain ⟨least, runs⟩ := ih given
    refine ⟨least, fun depth deep state inline => ?_⟩
    have deeper : State.Inline scope
        { state with position.path := state.position.path ++ segments } :=
      ⟨inline.document, inline.opened, inline.scope⟩
    obtain ⟨inner, ran, ended⟩ := runs depth deep _ deeper
    refine ⟨{ inner with
      position.path := inner.position.path.take state.position.path.length }, ?_,
      ended.document, ended.opened, ended.scope⟩
    simp only [Plan.run, Compile.under, ran]
  | andThen first next firstIH nextIH =>
    obtain ⟨b, given, given'⟩ := given
    obtain ⟨least, runs⟩ := firstIH given
    obtain ⟨least', runs'⟩ := nextIH b given'
    refine ⟨max least least', fun depth deep state inline => ?_⟩
    obtain ⟨middle, ran, between⟩ := runs depth (by omega) state inline
    obtain ⟨after, ran', ended⟩ := runs' depth (by omega) middle between
    exact ⟨after, (Compile.bind_of_ok ran).trans ran', ended⟩

end Plans

/-! ## Nodes -/

theorem Scope.Compiles.succ (compiles : scope.Compiles loader node ty) :
    ∃ depth state after, state.Inline scope ∧
      Node.compile loader (depth + 1) node state = (.ok ty, after) := by
  obtain ⟨depth, state, after, inline, ran⟩ := compiles
  cases depth with
  | zero => cases ran
  | succ depth => exact ⟨depth, state, after, inline, ran⟩

/-- A node without a reference and without definitions compiles to what its body gives. -/
theorem Scope.compiles_iff_yields (settled : scope.Settled) (plain : members.get? "$ref" = none)
    (bare : Definitions.entries members = .ok []) :
    scope.Compiles loader (.obj members) ty ↔
      (Node.body members).Yields (scope.Compiles loader) ty := by
  constructor
  · intro compiles
    obtain ⟨depth, state, after, inline, ran⟩ := compiles.succ
    obtain ⟨journal, same⟩ := Node.compile_fst plain bare state
    obtain ⟨after', body⟩ :=
      Compile.ok_of_fst ((same loader depth).symm.trans (congrArg Prod.fst ran))
    exact (Plan.yields_of_run settled (inline.noted journal) body).1
  · intro given
    obtain ⟨least, runs⟩ := Plan.run_of_yields settled given
    have inline := State.inline_start scope
    obtain ⟨journal, same⟩ := Node.compile_fst plain bare { State.start .empty with scope }
    obtain ⟨after, ran, -⟩ := runs least (Nat.le_refl _) _ (inline.noted journal)
    obtain ⟨after', whole⟩ :=
      Compile.ok_of_fst ((same loader least).trans (congrArg Prod.fst ran))
    exact ⟨least + 1, _, after', inline, whole⟩

/-- A reference to a name compiles to what the name stands for. -/
theorem Scope.compiles_reference_iff {reference name : String} (settled : scope.Settled)
    (named : members.get? "$ref" = some (.str reference)) (names : Reference.Names reference name) :
    scope.Compiles loader (.obj members) ty ↔ scope.Knows name ty := by
  obtain ⟨fragment, inside, defined⟩ := Reference.names_iff.mp names
  have follow (compile : NodeCompiler) (state : State) :
      (Reference.resolve loader compile reference state).1 =
        (Definitions.resolve compile name reference { state with
          journal := .resolving reference state.position :: state.journal }).1 := by
    simp only [Reference.resolve, inside, defined]
    rfl
  constructor
  · intro compiles
    obtain ⟨depth, state, after, inline, ran⟩ := compiles.succ
    obtain ⟨journal, same⟩ := Node.compile_fst_reference named state
    have ended := (same loader depth).symm.trans (congrArg Prod.fst ran)
    rw [follow] at ended
    obtain ⟨last, resolved⟩ := Compile.ok_of_fst ended
    have restores := Node.compile_restores loader depth
    obtain ⟨level, block, found⟩ := Definitions.resolve_ok restores resolved
    have unchanged := (inline.noted _).kept settled
      (Definitions.resolve_restores restores name reference) resolved
    exact ⟨level, block, unchanged.scope ▸ found⟩
  · rintro ⟨level, block, found⟩
    have inline := State.inline_start scope
    obtain ⟨journal, same⟩ :=
      Node.compile_fst_reference named { State.start .empty with scope }
    have ended := same loader 0
    rw [follow, Definitions.resolve_of_some found] at ended
    obtain ⟨after, ran⟩ := Compile.ok_of_fst ended
    exact ⟨1, _, after, inline, ran⟩

/-- What a reference compiles to does not depend on what stands beside it. -/
theorem Scope.Compiles.of_same_reference (settled : scope.Settled) {reference : Json}
    (named : members.get? "$ref" = some reference) (named' : members'.get? "$ref" = some reference)
    (compiles : scope.Compiles loader (.obj members) ty) :
    scope.Compiles loader (.obj members') ty := by
  obtain ⟨depth, state, after, inline, ran⟩ := compiles.succ
  have ended := congrArg Prod.fst ran
  cases reference with
  | str reference =>
    obtain ⟨journal, same⟩ := Node.compile_fst_reference named state
    obtain ⟨journal', same'⟩ := Node.compile_fst_reference named' state
    obtain ⟨last, followed⟩ := Compile.ok_of_fst ((same loader depth).symm.trans ended)
    have unchanged := (inline.noted journal).kept settled
      (Reference.resolve_restores loader (Node.compile_restores loader depth) reference) followed
    have closed : Compile.Congruence (fun _ => Compile.Follows scope) Eq loader loader :=
      Compile.Follows.congruence (fun _ _ => id) scope
    have allows : State.Allows scope 0 { state with journal } { state with journal := journal' } :=
      ⟨rfl, fun _ => id, inline.scope ▸ .outer⟩
    obtain ⟨last', followed', -⟩ := (closed.reference (fun same => closed.compile depth same) reference).ends
      0 _ _ ty last allows followed (by rw [unchanged.scope]; exact .refl scope)
    obtain ⟨after', whole⟩ :=
      Compile.ok_of_fst ((same' loader depth).trans (congrArg Prod.fst followed'))
    exact ⟨depth + 1, state, after', inline, whole⟩
  | _ =>
    rw [Node.compile_fst_object, Node.object, named] at ended
    cases ended

end SchemaTypes
