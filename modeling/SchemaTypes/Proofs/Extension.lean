import SchemaTypes.Proofs.Budget
import SchemaTypes.Proofs.Following

/-! More names and more documents do no harm: what compiles goes on to compile, to the same type,
when a registry and a loader are extended. -/
namespace SchemaTypes

variable {loader loader' : Loader} {registry registry' : Registry} {source : Source} {ty : Ty}

theorem Scope.promises_ofRegistry
    (known : ∀ name ty, registry.get? name = some ty → registry'.get? name = some ty) :
    Scope.Promises (.ofRegistry registry) (.ofRegistry registry') := by
  intro name ty knows
  exact knows_ofRegistry.mpr (known name ty (knows_ofRegistry.mp knows))

/-- Where all names are known beforehand, a run leaves the scope as it is. -/
theorem Node.compile_scope (loader : Loader) (depth : Nat) (node : Json) {state : State}
    (start : state.scope = .ofRegistry registry) :
    (Node.compile loader depth node state).2.scope = .ofRegistry registry := by
  obtain ⟨events, kept, -⟩ := Node.compile_restores loader depth node state
  have settled : state.scope.Settled := start ▸ Scope.settled_ofRegistry registry
  rw [kept.scope.eq_of_settled settled, start]

/-- Where all names are known beforehand, a node that compiles does so with more of them. -/
theorem Node.compile_of_extended
    (documents : ∀ location document, loader.load location = .ok document →
      loader'.load location = .ok document)
    (known : ∀ name ty, registry.get? name = some ty → registry'.get? name = some ty)
    {depth : Nat} {node : Json} {state state' : State}
    (ran : (Node.compile loader depth node state).1 = .ok ty)
    (start : state.scope = .ofRegistry registry) (start' : state'.scope = .ofRegistry registry')
    (document : state'.position.document = state.position.document)
    (opened : state'.opened = state.opened) :
    (Node.compile loader' depth node state').1 = .ok ty := by
  have promises : Scope.Promises (Node.compile loader depth node state).2.scope state'.scope := by
    rw [Node.compile_scope loader depth node start, start']
    exact Scope.promises_ofRegistry known
  obtain ⟨after', ran', -⟩ := Node.compile_again documents (Prod.ext ran rfl) document
    (fun key member => opened ▸ member) promises
  exact congrArg Prod.fst ran'

namespace Compilation

theorem startWithin_extended
    (documents : ∀ location document, loader.load location = .ok document →
      loader'.load location = .ok document)
    (known : ∀ name ty, registry.get? name = some ty → registry'.get? name = some ty)
    {bound : Json → Nat}
    (ran : (startWithin loader bound source (State.start registry)).1 = .ok ty) :
    (startWithin loader' bound source (State.start registry')).1 = .ok ty := by
  cases source with
  | inline schema => exact Node.compile_of_extended documents known ran rfl rfl rfl rfl
  | location location =>
    obtain ⟨root, middle, found, -⟩ := Compile.bind_ok (Prod.ext ran rfl)
    obtain ⟨loaded, -⟩ := Reference.load_ok found
    rw [startWithin_location loaded] at ran
    rw [startWithin_location (documents location root loaded)]
    exact Node.compile_of_extended documents known ran rfl rfl rfl rfl

end Compilation

theorem CompilesTo.extended
    (documents : ∀ location document, loader.load location = .ok document →
      loader'.load location = .ok document)
    (known : ∀ name ty, registry.get? name = some ty → registry'.get? name = some ty)
    (found : CompilesTo loader source registry (.ok ty)) :
    CompilesTo loader' source registry' (.ok ty) := by
  obtain ⟨-, budget, ran⟩ := found
  refine ⟨by simp, budget, ?_⟩
  rw [compile_withBudget] at ran ⊢
  exact Compilation.startWithin_extended documents known ran

/-- A schema that compiles goes on to compile, and to the same type, when types of new names are
known and new documents are at hand. -/
theorem compile_extended {bundle bundle' : Bundle}
    (known : ∀ name ty, registry.get? name = some ty → registry'.get? name = some ty)
    (documents : ∀ text document, bundle.documents.lookup text = some document →
      bundle'.documents.lookup text = some document)
    (compiled : compile bundle.loader source registry = .ok ty) :
    compile bundle'.loader source registry' = .ok ty := by
  have loads : ∀ location document, bundle.loader.load location = .ok document →
      bundle'.loader.load location = .ok document := by
    intro location document loaded
    have present := documents _ _ (Bundle.load_ok loaded)
    simp only [Bundle.loader, Bundle.load, present]
  have found := Bundle.compilesTo_iff.mpr compiled
  exact Bundle.compilesTo_iff.mp (found.extended loads known)

/-- A name in another document, for which that document needs a type known beforehand. -/
def sharedName : Json := .obj [("$ref", .str "names.json#/definitions/full")]

def namesDocument : Json :=
  .obj [("definitions", .obj [("full", .obj [("$ref", .str "#/definitions/text")])])]

theorem compile_extended_sharedName :
    let bundle : Bundle := ⟨[("names.json", namesDocument)]⟩
    let bundle' : Bundle := ⟨[("other.json", .null), ("names.json", namesDocument)]⟩
    let registry : Registry := ⟨[("text", .leaf .string)]⟩
    let registry' : Registry := ⟨[("text", .leaf .string), ("full", .leaf .number)]⟩
    compile bundle.loader (.inline sharedName) registry = .ok (.leaf .string) ∧
      compile bundle'.loader (.inline sharedName) registry' = .ok (.leaf .string) := by
  intro bundle bundle' registry registry'
  have known : ∀ name ty, registry.get? name = some ty → registry'.get? name = some ty := by
    intro name ty found
    cases List.mem_singleton.mp (Keyed.mem_of_lookup found)
    rfl
  have documents : ∀ text document, bundle.documents.lookup text = some document →
      bundle'.documents.lookup text = some document := by
    intro text document found
    cases List.mem_singleton.mp (Keyed.mem_of_lookup found)
    rfl
  have compiled : compile bundle.loader (.inline sharedName) registry = .ok (.leaf .string) :=
    (Ty.Told.leaf .string).ok (by decide +kernel)
  exact ⟨compiled, compile_extended known documents compiled⟩

end SchemaTypes
