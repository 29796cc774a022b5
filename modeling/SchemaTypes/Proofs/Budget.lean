import SchemaTypes.Proofs.Counterpart
import SchemaTypes.Proofs.Termination

/-! How a compilation ends when its budget is large enough. Nothing but the bound on the depth
depends on the budget of a loader, and a budget that is not used up can be enlarged. -/
namespace SchemaTypes

def Loader.withBudget (loader : Loader) (budget : Nat) : Loader := { loader with budget }

/-- The outcome of a compilation with a budget that is not used up, whatever loader it has. -/
def CompilesTo (loader : Loader) (source : Source) (registry : Registry)
    (outcome : Except CompileError Ty) : Prop :=
  outcome ≠ .error .exhausted ∧
    ∃ budget, compile (loader.withBudget budget) source registry = outcome

variable {loader : Loader} {source : Source} {registry : Registry}
  {outcome other : Except CompileError Ty} {budget : Nat}

theorem Node.compile_withBudget (loader : Loader) (budget depth : Nat) :
    Node.compile (loader.withBudget budget) depth = Node.compile loader depth := by
  induction depth with
  | zero => rfl
  | succ depth ih =>
    change Node.step (loader.withBudget budget) (Node.compile (loader.withBudget budget) depth) = _
    rw [ih]
    rfl

/-- What compiles well does so in the same way at every depth that is as large. -/
theorem Node.compile_at_least {least depth : Nat} {node : Json} {ty : Ty} {state after : State}
    (ran : Node.compile loader least node state = (.ok ty, after)) (deep : least ≤ depth) :
    Node.compile loader depth node state = (.ok ty, after) := by
  obtain ⟨extra, rfl⟩ := Nat.exists_eq_add_of_le deep
  rcases Node.compile_refines_add loader least extra node state with stopped | same
  · rw [ran] at stopped
    cases stopped
  · exact same.trans ran

theorem compile_withBudget (loader : Loader) (source : Source) (registry : Registry)
    (budget : Nat) : compile (loader.withBudget budget) source registry =
      (Compilation.startWithin loader (fun root => root.size + budget + 1) source
        (State.start registry)).1 := by
  unfold compile Compilation.run Compilation.start Compilation.startWithin Compilation.depth
  cases source <;> simp only [Node.compile_withBudget] <;> rfl

/-- What a budget suffices for a larger one suffices for. -/
theorem compile_enlarged (ends : outcome ≠ .error .exhausted) (extra : Nat)
    (ran : compile (loader.withBudget budget) source registry = outcome) :
    compile (loader.withBudget (budget + extra)) source registry = outcome := by
  rw [compile_withBudget] at ran ⊢
  have larger : (fun root : Json => root.size + (budget + extra) + 1) =
      fun root => root.size + budget + 1 + extra := by
    funext root
    omega
  rw [larger]
  rcases Compilation.startWithin_refines loader (fun root => root.size + budget + 1) extra source
    (State.start registry) with stopped | same
  · exact (ends (ran ▸ stopped)).elim
  · rw [same]
    exact ran

/-- How a schema given inline ends at some depth it ends with some budget. -/
theorem Compilation.run_of_ended {schema : Json} {depth : Nat} {after : State}
    (ends : outcome ≠ .error .exhausted)
    (ran : Node.compile loader depth schema (State.start registry) = (outcome, after)) :
    Compilation.run (loader.withBudget depth) (.inline schema) registry =
      ⟨outcome, after.journal.reverse⟩ := by
  have deeper : Node.compile loader (depth + (schema.size + 1)) schema (State.start registry) =
      (outcome, after) := by
    rcases Node.compile_refines_add loader depth (schema.size + 1) schema (State.start registry)
      with stopped | same
    · rw [ran] at stopped
      exact (ends stopped).elim
    · exact same.trans ran
  have bound : Compilation.depth (loader.withBudget depth) schema = depth + (schema.size + 1) := by
    simp only [Compilation.depth, Loader.withBudget]
    omega
  simp only [Compilation.run, Compilation.start, Compilation.startWithin, bound,
    Node.compile_withBudget, deeper]

namespace CompilesTo

theorem unique (left : CompilesTo loader source registry outcome)
    (right : CompilesTo loader source registry other) : outcome = other := by
  obtain ⟨ends, budget, ran⟩ := left
  obtain ⟨ends', budget', ran'⟩ := right
  have whole := compile_enlarged ends budget' ran
  have whole' := compile_enlarged ends' budget ran'
  rw [Nat.add_comm] at whole'
  exact whole.symm.trans whole'

theorem of_compile (ran : compile loader source registry = outcome)
    (ends : outcome ≠ .error .exhausted) : CompilesTo loader source registry outcome :=
  ⟨ends, loader.budget, ran⟩

/-- A compilation that does not use up its budget has the outcome that there is. -/
theorem compile_eq (found : CompilesTo loader source registry outcome)
    (ends : compile loader source registry ≠ .error .exhausted) :
    compile loader source registry = outcome :=
  (of_compile rfl ends).unique found

theorem iff_compile (ends : compile loader source registry ≠ .error .exhausted) :
    CompilesTo loader source registry outcome ↔ compile loader source registry = outcome :=
  ⟨fun found => found.compile_eq ends, fun ran => .of_compile ran (ran ▸ ends)⟩

/-- A schema given inline is compiled at any depth that is large enough. -/
theorem inline_iff {schema : Json} : CompilesTo loader (.inline schema) registry outcome ↔
    outcome ≠ .error .exhausted ∧
      ∃ depth, (Node.compile loader depth schema (State.start registry)).1 = outcome := by
  refine and_congr_right fun ends => ⟨?_, ?_⟩
  · rintro ⟨budget, ran⟩
    rw [compile_withBudget] at ran
    exact ⟨schema.size + budget + 1, ran⟩
  · rintro ⟨depth, ran⟩
    exact ⟨depth, congrArg Compilation.outcome (Compilation.run_of_ended ends (Prod.ext ran rfl))⟩

/-- And so is the document at a location. -/
theorem location_iff {location : Location} {root : Json} (loaded : loader.load location = .ok root) :
    CompilesTo loader (.location location) registry outcome ↔ outcome ≠ .error .exhausted ∧
      ∃ depth, (Node.compile loader depth root
        (Reference.entered loader location (State.start registry))).1 = outcome := by
  have ran (budget : Nat) : compile (loader.withBudget budget) (.location location) registry =
      (Node.compile loader (root.size + budget + 1) root
        (Reference.entered loader location (State.start registry))).1 := by
    rw [compile_withBudget, Compilation.startWithin_location loaded]
  refine and_congr_right fun ends => ⟨fun ⟨budget, found⟩ => ⟨_, (ran budget).symm.trans found⟩, ?_⟩
  rintro ⟨depth, found⟩
  refine ⟨depth, (ran depth).trans ?_⟩
  rw [show root.size + depth + 1 = depth + (root.size + 1) by omega]
  rcases Node.compile_refines_add loader depth (root.size + 1) root
    (Reference.entered loader location (State.start registry)) with stopped | same
  · exact (ends (found.symm.trans stopped)).elim
  · rw [same]
    exact found

theorem inline_ok_iff {schema : Json} {ty : Ty} :
    CompilesTo loader (.inline schema) registry (.ok ty) ↔
      ∃ depth after, Node.compile loader depth schema (State.start registry) = (.ok ty, after) := by
  rw [inline_iff]
  constructor
  · rintro ⟨-, depth, ran⟩
    exact ⟨depth, _, Prod.ext ran rfl⟩
  · rintro ⟨depth, after, ran⟩
    exact ⟨by simp, depth, congrArg Prod.fst ran⟩

/-- Schemas that end alike at all depths that are large enough have the same outcome. -/
theorem inline_congr {schema schema' : Json} {registry' : Registry} {enough : Nat}
    (alike : ∀ depth ≥ enough, (Node.compile loader depth schema (State.start registry)).1 =
      (Node.compile loader depth schema' (State.start registry')).1) :
    CompilesTo loader (.inline schema) registry outcome ↔
      CompilesTo loader (.inline schema') registry' outcome := by
  have deeper {schema : Json} {registry : Registry} (ends : outcome ≠ .error .exhausted)
      {depth : Nat} (ran : (Node.compile loader depth schema (State.start registry)).1 = outcome) :
      (Node.compile loader (depth + enough) schema (State.start registry)).1 = outcome := by
    rcases Node.compile_refines_add loader depth enough schema (State.start registry)
      with stopped | same
    · exact (ends (ran.symm.trans stopped)).elim
    · rw [same]
      exact ran
  rw [inline_iff, inline_iff]
  refine and_congr_right fun ends => ⟨?_, ?_⟩
  · rintro ⟨depth, ran⟩
    exact ⟨depth + enough, (alike _ (by omega)).symm.trans (deeper ends ran)⟩
  · rintro ⟨depth, ran⟩
    exact ⟨depth + enough, (alike _ (by omega)).trans (deeper ends ran)⟩

end CompilesTo

/-! ## Outcomes told by a test -/

theorem exists_ok_of_test {test : Ty → Bool} (found : outcome.toOption.any test = true) :
    ∃ ty, outcome = .ok ty ∧ test ty = true := by
  cases outcome with
  | error error => cases found
  | ok ty => exact ⟨ty, rfl, found⟩

namespace Ty

/-- A type that no other type is equal to. -/
def Told (expected : Ty) : Prop := ∀ ty, expected.same ty = true → ty = expected

theorem Told.leaf (leaf : Leaf) : Told (.leaf leaf) := by
  intro ty equal
  cases ty with
  | leaf other =>
    simp only [same, beq_iff_eq] at equal
    rw [equal]
  | _ => simp [same] at equal

theorem Told.list {item : Ty} (told : item.Told) : Told (.list item) := by
  intro ty equal
  cases ty with
  | list other =>
    simp only [same] at equal
    rw [told other equal]
  | _ => simp [same] at equal

theorem Told.ok {expected : Ty} (told : expected.Told)
    (found : outcome.toOption.any expected.same = true) : outcome = .ok expected := by
  obtain ⟨ty, rfl, equal⟩ := exists_ok_of_test found
  rw [told ty equal]

end Ty

/-- The budget of a bundle is never used up. -/
theorem Bundle.compilesTo_iff {bundle : Bundle} :
    CompilesTo bundle.loader source registry outcome ↔
      compile bundle.loader source registry = outcome :=
  CompilesTo.iff_compile (Compilation.start_ends bundle source registry)

end SchemaTypes
