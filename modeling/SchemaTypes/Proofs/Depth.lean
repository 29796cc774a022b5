import SchemaTypes.Proofs.Outstanding

/-! The bound on the depth of a compilation is never met. A step down goes to a smaller node; a step
into a definition or into a document is paid for out of what is outstanding. -/
namespace SchemaTypes

/-- A run that does not stop at the bound on the depth. -/
def Compile.EndsFrom {α : Type} (body : Compile α) (state : State) : Prop :=
  (body state).1 ≠ .error .exhausted

def Compile.EndsWithin {α : Type} (body : Compile α) (ration : Ration) (n : Nat) : Prop :=
  ∀ state, state.Within ration n → body.EndsFrom state

/-- A compiler that has room for nodes and what is outstanding, up to a depth. -/
def NodeCompiler.EndsBelow (compile : NodeCompiler) (ration : Ration) (depth : Nat) : Prop :=
  ∀ node n, ration.admitted node → node.size + n ≤ depth → (compile node).EndsWithin ration n

theorem Fault.error_ne_exhausted (fault : Fault) (position : Position) :
    fault.error position ≠ .exhausted := by
  cases fault <;> simp [Fault.error]

variable {ration : Ration} {n depth : Nat}

namespace Compile

variable {α β : Type} {body : Compile α} {state : State}

theorem endsFrom_pure (a : α) : (pure a : Compile α).EndsFrom state := by
  rintro ⟨⟩

theorem endsFrom_fail (fault : Fault) : (fail fault : Compile α).EndsFrom state := by
  intro ended
  exact fault.error_ne_exhausted _ (Except.error.inj ended)

theorem endsFrom_ofExcept (outcome : Except Fault α) : (ofExcept outcome).EndsFrom state := by
  cases outcome with
  | ok a => exact endsFrom_pure a
  | error fault => exact endsFrom_fail fault

theorem endsFrom_note (event : Position → Event) : (note event).EndsFrom state := by
  rintro ⟨⟩

theorem EndsFrom.within {position : Position} (inside : body.EndsFrom { state with position }) :
    (Compile.within position body).EndsFrom state := inside

theorem EndsFrom.opening {location : Location}
    (inside : body.EndsFrom { state with opened := location.key :: state.opened }) :
    (Compile.opening location body).EndsFrom state := inside

theorem EndsFrom.withLayer {slots : List (String × Slot)}
    (inside : body.EndsFrom (state.entering slots)) :
    (Compile.withLayer slots body).EndsFrom state := inside

theorem EndsFrom.bind {next : α → Compile β} (first : body.EndsFrom state)
    (rest : ∀ a after, body state = (.ok a, after) → (next a).EndsFrom after) :
    (body >>= next).EndsFrom state := by
  unfold EndsFrom at first ⊢
  rcases bind_ends body next state with ⟨error, middle, ended, whole⟩ | ⟨a, middle, ended, whole⟩
  · rw [whole]
    rintro ⟨⟩
    exact first (congrArg Prod.fst ended)
  · rw [whole]
    exact rest a middle ended

/-- A computation that ends, and one behind it that ends for whatever it gives. -/
theorem EndsWithin.bind {next : α → Compile β} (restores : body.Restores)
    (first : body.EndsWithin ration n)
    (rest : ∀ a before after, body before = (.ok a, after) → (next a).EndsWithin ration n) :
    (body >>= next).EndsWithin ration n := by
  intro state within
  refine EndsFrom.bind (first state within) fun a after ran => ?_
  obtain ⟨events, kept⟩ := restores state
  rw [ran] at kept
  exact rest a state after ran after (within.kept kept)

end Compile

theorem Plan.run_ends {α : Type} {compile : NodeCompiler} {allowed : Json → Prop} {plan : Plan α}
    (restores : compile.Restores)
    (compiles : ∀ node, allowed node → (compile node).EndsWithin ration n)
    (visits : plan.Visits fun _ node => allowed node) :
    (plan.run compile).EndsWithin ration n := by
  induction plan with
  | done a => exact fun state _ => Compile.endsFrom_pure a
  | fail fault => exact fun state _ => Compile.endsFrom_fail fault
  | note remark => exact fun state _ => Compile.endsFrom_note _
  | visit node => exact compiles node visits
  | under segments plan ih => exact fun state within => ih visits _ ⟨within.bodies, within.bounded⟩
  | andThen first next firstIH nextIH =>
    refine (firstIH visits.1).bind (Plan.run_restores restores first) fun a before after ran => ?_
    exact nextIH a (visits.2 a (run_canGive ran))

namespace Definitions

variable {compile : NodeCompiler}

theorem settle_ends (compiles : compile.EndsBelow ration depth) (enough : n ≤ depth)
    {state : State} {name reference : String} {binding : Scope.Binding}
    (within : state.Within ration n) (found : state.scope.find? name = some binding) :
    (settle compile name reference binding).EndsFrom state := by
  obtain ⟨level, block, slot⟩ := binding
  cases slot with
  | ready ty => exact Compile.endsFrom_pure ty
  | compiling => exact Compile.endsFrom_fail _
  | pending definition =>
    obtain ⟨hidden, layer, outer, parts, rfl, -, declared, -⟩ := Scope.located found
    obtain ⟨fits, admitted, inside⟩ := demanding_within within parts declared
    have ends := compiles definition.node (n - definition.node.size) admitted (by omega) _ inside
    unfold Compile.EndsFrom at ends ⊢
    simp only [settle]
    rw [(demand_ends parts).1]
    exact ends

theorem resolve_ends (compiles : compile.EndsBelow ration depth) (enough : n ≤ depth)
    (name reference : String) : (resolve compile name reference).EndsWithin ration n := by
  intro state within
  cases found : state.scope.find? name with
  | none =>
    unfold Compile.EndsFrom
    rw [resolve_of_none found]
    rintro ⟨⟩
  | some binding =>
    unfold Compile.EndsFrom
    rw [resolve_of_some found]
    exact Compile.EndsFrom.bind (settle_ends compiles enough within found) fun ty after _ =>
      Compile.EndsFrom.bind (Compile.endsFrom_note _) fun _ _ _ => Compile.endsFrom_pure ty

theorem resolveAll_ends (restores : compile.Restores) (compiles : compile.EndsBelow ration depth)
    (enough : n ≤ depth) (entries : List Entry) :
    (resolveAll compile entries).EndsWithin ration n := by
  induction entries with
  | nil => exact fun state _ => Compile.endsFrom_pure ()
  | cons entry rest ih =>
    exact (resolve_ends compiles enough _ _).bind (resolve_restores restores _ _) fun _ _ _ _ => ih

theorem within_ends {α : Type} {members : Members} {body : Compile α} (restores : compile.Restores)
    (compiles : compile.EndsBelow ration depth) (enough : Json.sizeMembers members + n ≤ depth)
    (admitted : ∀ entries entry, Definitions.entries members = .ok entries → entry ∈ entries →
      ration.admitted entry.node)
    (inside : body.EndsWithin ration n) : (within compile members body).EndsWithin ration n := by
  intro state within
  refine Compile.EndsFrom.bind (Compile.endsFrom_ofExcept _) fun entries middle ran => ?_
  obtain ⟨read, rfl⟩ := Compile.ofExcept_ok ran
  split
  · exact inside middle within
  · have bodies : ∀ entry ∈ entries, ration.admitted entry.node :=
      fun entry member => admitted entries entry read member
    have paid := bodySizes_le read
    refine Compile.EndsFrom.bind (Compile.endsFrom_note _) fun _ noted ran => ?_
    have same : noted.Within ration n := by
      cases ran
      exact ⟨within.bodies, within.bounded⟩
    refine Compile.EndsFrom.bind (by rintro ⟨⟩) fun position _ ran => ?_
    cases ran
    -- The definitions of the node are outstanding until all are resolved, and no longer.
    refine Compile.EndsFrom.withLayer (Compile.EndsFrom.bind ?_ fun _ after resolved => ?_)
    · exact resolveAll_ends restores compiles (by omega) entries _ (entering_within same bodies)
    · exact inside after (resolveAll_within restores same bodies resolved)

end Definitions

namespace Reference

variable {compile : NodeCompiler} {loader : Loader}

theorem document_ends (restores : compile.Restores) (compiles : compile.EndsBelow ration depth)
    {reference fragment : String} {document : Json} (enough : document.size + n ≤ depth)
    (covers : ration.Covers loader) (admitted : ration.admitted document)
    (parts : ∀ pointer node, document.pointer? pointer = some node → ration.admitted node) :
    (Reference.document compile reference fragment document).EndsWithin ration n := by
  unfold Reference.document
  split
  · exact compiles document n admitted enough
  · cases document with
    | obj members =>
      have smaller : Json.sizeMembers members + n ≤ depth := by
        rw [Json.size] at enough
        omega
      refine Definitions.within_ends restores compiles smaller
        (fun entries entry => covers.entry members entries entry admitted) ?_
      split
      · exact Definitions.resolve_ends compiles (by omega) _ _
      · split
        · next node found =>
          have fits := Json.pointer?_size found
          exact fun state within =>
            compiles node n (parts _ node found) (by omega) _ ⟨within.bodies, within.bounded⟩
        · exact fun state _ => Compile.endsFrom_fail _
    | _ => exact fun state _ => Compile.endsFrom_fail _

theorem load_ends (loader : Loader) (location : Location) (state : State) :
    (load loader location).EndsFrom state := by
  refine Compile.EndsFrom.bind (Compile.endsFrom_note _) fun _ _ _ => ?_
  split
  · exact Compile.endsFrom_pure _
  · rintro ⟨⟩

theorem load_ok {location : Location} {document : Json} {state after : State}
    (ran : load loader location state = (.ok document, after)) :
    loader.load location = .ok document ∧ after = { state with
      journal := .opening location loader.announces :: state.journal } := by
  obtain ⟨_, middle, noted, ran⟩ := Compile.bind_ok ran
  cases noted
  cases found : loader.load location with
  | ok loaded =>
    rw [found] at ran
    cases ran
    exact ⟨rfl, rfl⟩
  | error error =>
    rw [found] at ran
    cases ran

theorem external_ends (restores : compile.Restores) (compiles : compile.EndsBelow ration depth)
    (covers : ration.Covers loader) {members : Members} {reference : String}
    (admitted : ration.admitted (.obj members))
    (named : members.get? "$ref" = some (.str reference))
    (outside : localFragment? reference = none) (enough : n ≤ depth) :
    (external loader compile reference).EndsWithin ration n := by
  intro state within
  refine Compile.EndsFrom.bind (by rintro ⟨⟩) fun base _ ran => ?_
  cases ran
  refine Compile.EndsFrom.bind (by rintro ⟨⟩) fun cyclic _ ran => ?_
  cases ran
  split
  · exact Compile.endsFrom_fail _
  · next closed =>
    refine Compile.EndsFrom.bind (load_ends loader _ _) fun loaded middle ran => ?_
    obtain ⟨found, rfl⟩ := load_ok ran
    obtain ⟨entry, parts, paid⟩ := covers.document _ _ state.opened _ _ admitted named outside found
      (by simpa using closed)
    have bounded := within.bounded
    refine Compile.EndsFrom.opening (Compile.EndsFrom.within ?_)
    have left : loaded.size + (n - loaded.size) ≤ depth := by omega
    refine document_ends restores compiles left covers entry parts _ ⟨within.bodies, ?_⟩
    change state.scope.outstanding + ration.rest (_ :: state.opened) ≤ n - loaded.size
    omega

theorem resolve_ends (restores : compile.Restores) (compiles : compile.EndsBelow ration depth)
    (covers : ration.Covers loader) {members : Members} {reference : String}
    (admitted : ration.admitted (.obj members))
    (named : members.get? "$ref" = some (.str reference))
    (enough : n ≤ depth) : (resolve loader compile reference).EndsWithin ration n := by
  intro state within
  refine Compile.EndsFrom.bind (Compile.endsFrom_note _) fun _ noted ran => ?_
  have same : noted.Within ration n := by
    cases ran
    exact ⟨within.bodies, within.bounded⟩
  split
  · split
    · exact Definitions.resolve_ends compiles enough _ _ noted same
    · exact Compile.endsFrom_fail _
  · next outside =>
    exact external_ends restores compiles covers admitted named outside enough noted same

end Reference

namespace Node

theorem object_ends {compile : NodeCompiler} {loader : Loader} (restores : compile.Restores)
    (compiles : compile.EndsBelow ration depth) (covers : ration.Covers loader) {members : Members}
    (admitted : ration.admitted (.obj members)) (enough : Json.sizeMembers members + n ≤ depth) :
    (object loader compile members).EndsWithin ration n := by
  unfold object
  split
  · next reference named =>
    exact Reference.resolve_ends restores compiles covers admitted named (by omega)
  · exact fun state _ => Compile.endsFrom_fail _
  · have parts : ∀ node, (∃ path, Part members path node) →
        (compile node).EndsWithin ration n := by
      rintro node ⟨path, part⟩
      have smaller := part.size_le
      exact compiles node n (covers.part members path node admitted part) (by omega)
    refine Compile.EndsWithin.bind (Plan.run_restores restores _)
      (Plan.run_ends restores parts noteIgnored_visits) fun _ _ _ _ => ?_
    exact Definitions.within_ends restores compiles enough
      (fun entries entry => covers.entry members entries entry admitted)
      (Plan.run_ends restores parts (body_visits.imp fun path _ part => ⟨path, part⟩))

theorem step_ends {compile : NodeCompiler} {loader : Loader} (restores : compile.Restores)
    (compiles : compile.EndsBelow ration depth) (covers : ration.Covers loader) :
    NodeCompiler.EndsBelow (step loader compile) ration (depth + 1) := by
  intro node n admitted enough state within
  refine Compile.EndsFrom.bind (Compile.endsFrom_note _) fun _ noted ran => ?_
  have same : noted.Within ration n := by
    cases ran
    exact ⟨within.bodies, within.bounded⟩
  cases node with
  | obj members =>
    have smaller : Json.sizeMembers members + n ≤ depth := by
      rw [Json.size] at enough
      omega
    exact Compile.EndsFrom.bind (object_ends restores compiles covers admitted smaller noted same)
      fun ty _ _ => Compile.EndsFrom.bind (Compile.endsFrom_note _) fun _ _ _ =>
        Compile.endsFrom_pure ty
  | _ => exact Compile.endsFrom_fail _

/-- A depth that has room for a node and for what is outstanding is never met. -/
theorem compile_ends {loader : Loader} (covers : ration.Covers loader) (depth : Nat) :
    NodeCompiler.EndsBelow (compile loader depth) ration depth := by
  induction depth with
  | zero =>
    intro node n _ enough
    have positive := node.size_pos
    omega
  | succ depth ih => exact step_ends (compile_restores loader depth) ih covers

end Node

end SchemaTypes
