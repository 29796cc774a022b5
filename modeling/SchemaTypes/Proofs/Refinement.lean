import SchemaTypes.Proofs.Scope
import SchemaTypes.Schema.Compilation

/-! A larger bound on the depth changes nothing but runs that stopped at the smaller one. Carried
through every way of putting computations together, and from there to any two bounds. -/
namespace SchemaTypes

/-- `more` runs as `less` does wherever `less` does not stop at its bound. -/
def Compile.Refines {α : Type} (less more : Compile α) : Prop :=
  ∀ state, (less state).1 = .error .exhausted ∨ more state = less state

def NodeCompiler.Refines (less more : NodeCompiler) : Prop :=
  ∀ node, Compile.Refines (less node) (more node)

namespace Compile.Refines

variable {α β : Type} {less more : Compile α}

theorem refl (body : Compile α) : body.Refines body := fun _ => Or.inr rfl

theorem trans {least : Compile α} (first : least.Refines less) (second : less.Refines more) :
    least.Refines more := by
  intro state
  rcases first state with stopped | same
  · exact Or.inl stopped
  · rcases second state with stopped | again
    · exact Or.inl (same ▸ stopped)
    · exact Or.inr (again.trans same)

theorem bind {next next' : α → Compile β} (first : less.Refines more)
    (rest : ∀ a, (next a).Refines (next' a)) : (less >>= next).Refines (more >>= next') := by
  intro state
  cases ends : less state with
  | mk outcome after =>
    rcases first state with stopped | same
    · rw [ends] at stopped
      cases stopped
      rw [bind_of_error ends]
      exact Or.inl rfl
    · rw [ends] at same
      cases outcome with
      | ok a =>
        rw [bind_of_ok ends, bind_of_ok same]
        exact rest a after
      | error error =>
        rw [bind_of_error ends, bind_of_error same]
        exact Or.inr rfl

/-- A change of the state before and behind a computation does not get in the way. -/
theorem around (before : State → State) (behind : State → State → State)
    (inside : less.Refines more) :
    Compile.Refines
      (fun state => ((less (before state)).1, behind state (less (before state)).2))
      (fun state => ((more (before state)).1, behind state (more (before state)).2)) := by
  intro state
  rcases inside (before state) with stopped | same
  · exact Or.inl stopped
  · dsimp only
    exact Or.inr (by rw [same])

theorem under (segments : List String) (inside : less.Refines more) :
    (Compile.under segments less).Refines (Compile.under segments more) :=
  inside.around _ fun state after =>
    { after with position.path := after.position.path.take state.position.path.length }

theorem within (position : Position) (inside : less.Refines more) :
    (Compile.within position less).Refines (Compile.within position more) :=
  inside.around _ fun state after => { after with position := state.position }

theorem opening (location : Location) (inside : less.Refines more) :
    (Compile.opening location less).Refines (Compile.opening location more) :=
  inside.around _ fun _ after => { after with opened := after.opened.drop 1 }

theorem withLayer (slots : List (String × Slot)) (inside : less.Refines more) :
    (Compile.withLayer slots less).Refines (Compile.withLayer slots more) :=
  inside.around (·.entering slots) fun _ after => { after with scope := after.scope.drop 1 }

end Compile.Refines

variable {less more : NodeCompiler}

theorem Plan.run_refines {α : Type} (refines : less.Refines more) (plan : Plan α) :
    (plan.run less).Refines (plan.run more) := by
  induction plan with
  | done a | fail fault | note remark => exact .refl _
  | visit node => exact refines node
  | under segments plan ih => exact ih.under segments
  | andThen first next firstIH nextIH => exact firstIH.bind nextIH

namespace Definitions

theorem demand_refines (refines : less.Refines more) (level : Nat) (name : String)
    (definition : Definition) :
    (demand less level name definition).Refines (demand more level name definition) := by
  intro state
  have inside := (refines definition.node).within definition.position
    { state with scope := (state.scope.upTo level).set level name .compiling }
  unfold demand
  dsimp only
  rcases inside with stopped | same
  · split
    · next ended =>
      rw [ended] at stopped
      cases stopped
    · next ended =>
      rw [ended] at stopped
      cases stopped
      exact Or.inl rfl
  · rw [same]
    exact Or.inr rfl

theorem settle_refines (refines : less.Refines more) (name reference : String)
    (binding : Scope.Binding) :
    (settle less name reference binding).Refines (settle more name reference binding) := by
  unfold settle
  split
  · exact .refl _
  · exact .refl _
  · exact demand_refines refines _ _ _

theorem resolve_refines (refines : less.Refines more) (name reference : String) :
    (resolve less name reference).Refines (resolve more name reference) := by
  refine (Compile.Refines.refl _).bind fun binding => ?_
  split
  · exact .refl _
  · exact (settle_refines refines _ _ _).bind fun _ => .refl _

theorem resolveAll_refines (refines : less.Refines more) (entries : List Entry) :
    (resolveAll less entries).Refines (resolveAll more entries) := by
  induction entries with
  | nil => exact .refl _
  | cons entry rest ih => exact (resolve_refines refines _ _).bind fun _ => ih

theorem within_refines {α : Type} (refines : less.Refines more) (members : Members)
    {body body' : Compile α} (inside : body.Refines body') :
    (within less members body).Refines (within more members body') := by
  refine (Compile.Refines.refl _).bind fun entries => ?_
  split
  · exact inside
  · refine (Compile.Refines.refl _).bind fun _ => (Compile.Refines.refl _).bind fun position => ?_
    exact ((resolveAll_refines refines entries).bind fun _ => inside).withLayer _

end Definitions

namespace Reference

theorem document_refines (refines : less.Refines more) (reference fragment : String)
    (document : Json) : (Reference.document less reference fragment document).Refines
      (Reference.document more reference fragment document) := by
  unfold Reference.document
  split
  · exact refines document
  · split
    · refine Definitions.within_refines refines _ ?_
      split
      · exact Definitions.resolve_refines refines _ _
      · split
        · exact (Compile.Refines.refl _).bind fun position => (refines _).within _
        · exact .refl _
    · exact .refl _

theorem external_refines (loader : Loader) (refines : less.Refines more) (reference : String) :
    (external loader less reference).Refines (external loader more reference) := by
  refine (Compile.Refines.refl _).bind fun base => (Compile.Refines.refl _).bind fun cyclic => ?_
  split
  · exact .refl _
  · refine (Compile.Refines.refl _).bind fun loaded => ?_
    exact ((document_refines refines _ _ loaded).within _).opening _

theorem resolve_refines (loader : Loader) (refines : less.Refines more) (reference : String) :
    (resolve loader less reference).Refines (resolve loader more reference) := by
  refine (Compile.Refines.refl _).bind fun _ => ?_
  split
  · split
    · exact Definitions.resolve_refines refines _ _
    · exact .refl _
  · exact external_refines loader refines reference

end Reference

namespace Node

theorem object_refines (loader : Loader) (refines : less.Refines more) (members : Members) :
    (object loader less members).Refines (object loader more members) := by
  unfold object
  split
  · exact Reference.resolve_refines loader refines _
  · exact .refl _
  · exact (Plan.run_refines refines _).bind fun _ =>
      Definitions.within_refines refines members (Plan.run_refines refines _)

theorem step_refines (loader : Loader) (refines : less.Refines more) :
    NodeCompiler.Refines (step loader less) (step loader more) := by
  intro node
  refine (Compile.Refines.refl _).bind fun _ => ?_
  cases node with
  | obj members => exact (object_refines loader refines members).bind fun ty => .refl _
  | _ => exact .refl _

theorem compile_refines (loader : Loader) (depth : Nat) :
    NodeCompiler.Refines (compile loader depth) (compile loader (depth + 1)) := by
  induction depth with
  | zero => exact fun node state => Or.inl rfl
  | succ depth ih => exact step_refines loader ih

theorem compile_refines_add (loader : Loader) (depth extra : Nat) :
    NodeCompiler.Refines (compile loader depth) (compile loader (depth + extra)) := by
  intro node
  induction extra with
  | zero => exact .refl _
  | succ extra ih => exact ih.trans (compile_refines loader _ node)

end Node

end SchemaTypes
