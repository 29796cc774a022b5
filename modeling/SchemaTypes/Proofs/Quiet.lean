import SchemaTypes.Proofs.Harvest
import SchemaTypes.Proofs.Parts
import SchemaTypes.Schema.Compilation

/-! Nodes that mean one type wherever they stand. They refer to nothing and define nothing, and so
do their parts: neither scope nor loader counts, and nothing is opened. -/
namespace SchemaTypes

variable {α β : Type}

/-- From every state, a computation gives the same result, and only notes that nothing is opened
for. -/
def Compile.Quietly (body : Compile α) (a : α) : Prop :=
  ∀ state, ∃ events, body state = (.ok a, { state with journal := events ++ state.journal }) ∧
    ∀ event ∈ events, event.opened? = none

namespace Compile.Quietly

variable {body : Compile α} {a : α} {b : β}

theorem pure (a : α) : (Pure.pure a : Compile α).Quietly a :=
  fun _ => ⟨[], rfl, by simp⟩

theorem note {event : Position → Event} (silent : ∀ position, (event position).opened? = none) :
    (Compile.note event).Quietly () :=
  fun state => ⟨[event state.position], rfl, by simpa using silent state.position⟩

theorem bind {next : α → Compile β} (first : body.Quietly a) (rest : (next a).Quietly b) :
    (body >>= next).Quietly b := by
  intro state
  obtain ⟨events, ran, silent⟩ := first state
  obtain ⟨events', ran', silent'⟩ := rest { state with journal := events ++ state.journal }
  refine ⟨events' ++ events, ?_, List.forall_mem_append.mpr ⟨silent', silent⟩⟩
  rw [bind_of_ok ran, ran', List.append_assoc]

theorem under (segments : List String) (inside : body.Quietly a) :
    (Compile.under segments body).Quietly a := by
  intro state
  obtain ⟨events, ran, silent⟩ :=
    inside { state with position.path := state.position.path ++ segments }
  refine ⟨events, ?_, silent⟩
  simp only [Compile.under, ran, List.take_left]

end Compile.Quietly

/-- A plan that can give something gives it quietly if all that it visits is compiled quietly. -/
theorem Plan.Yields.quietly {compile : NodeCompiler} {judged : Json → Ty → Prop}
    {admitted : Json → Prop} {plan : Plan α} {a : α} (given : plan.Yields judged a)
    (visits : plan.Visits fun _ node => admitted node)
    (compiles : ∀ node ty, admitted node → judged node ty → (compile node).Quietly ty) :
    (plan.run compile).Quietly a := by
  induction plan with
  | done b =>
    cases given
    exact .pure b
  | fail fault => exact given.elim
  | note remark => exact .note fun _ => rfl
  | visit node => exact compiles node a visits given
  | under segments plan ih => exact (ih given visits).under segments
  | andThen first next firstIH nextIH =>
    obtain ⟨middle, given, given'⟩ := given
    exact (firstIH given visits.1).bind (nextIH middle given' (visits.2 middle given.canGive))

/-- A node compiles to a type with any loader and from any state, at any depth that it fits in. -/
def Json.States (node : Json) (ty : Ty) : Prop :=
  ∀ loader depth, node.size ≤ depth → (Node.compile loader depth node).Quietly ty

/-- A node states a type if its parts state theirs, it refers to nothing and defines nothing. -/
theorem Node.Composed.states {members : Members} {ty : Ty} (plain : members.get? "$ref" = none)
    (bare : Definitions.entries members = .ok []) (composed : Composed Json.States members ty) :
    (Json.obj members).States ty := by
  intro loader depth deep
  cases depth with
  | zero => exact (Nat.not_succ_le_zero _ deep).elim
  | succ depth =>
    have fits := Nat.le_of_succ_le_succ deep
    have parts : (body members).Visits fun _ node => node.size ≤ depth :=
      body_visits.imp fun _ _ part => Nat.le_trans part.size_le fits
    have noted : ((noteIgnored members ignoredKeywords).run (compile loader depth)).Quietly () := by
      have given : (noteIgnored members ignoredKeywords).Yields Json.States () := noteIgnored_yields
      have nothing : (noteIgnored members ignoredKeywords).Visits fun _ _ => False :=
        noteIgnored_visits
      exact given.quietly nothing fun _ _ never => never.elim
    have whole : (Node.object loader (compile loader depth) members).Quietly ty := by
      rw [Node.object, plain]
      dsimp only
      rw [Definitions.within_of_nil bare]
      exact noted.bind ((yields_of_composed composed).quietly parts fun node ty fits states =>
        states loader depth fits)
    exact .bind (.note fun _ => rfl) (.bind whole (.bind (.note fun _ => rfl) (.pure ty)))

/-- A schema that states a type compiles to it whatever is known, and nothing is loaded. -/
theorem Json.States.run {schema : Json} {ty : Ty} (states : schema.States ty) (loader : Loader)
    (registry : Registry) :
    (Compilation.run loader (.inline schema) registry).outcome = .ok ty ∧
      (Compilation.run loader (.inline schema) registry).opened = [] := by
  have deep : schema.size ≤ Compilation.depth loader schema := by
    unfold Compilation.depth
    omega
  obtain ⟨events, ran, silent⟩ := states loader _ deep (State.start registry)
  have same : Compilation.run loader (.inline schema) registry = ⟨.ok ty, events.reverse⟩ := by
    simp only [Compilation.run, Compilation.start, Compilation.startWithin, ran]
    simp [State.start]
  rw [same]
  refine ⟨rfl, ?_⟩
  rw [Compilation.opened, List.filterMap_eq_nil_iff]
  exact fun event member => silent event (List.mem_reverse.mp member)

end SchemaTypes
