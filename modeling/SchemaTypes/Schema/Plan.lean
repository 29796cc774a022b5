import SchemaTypes.Schema.Compile

/-!
Plans: what the compilation of a node does once references and definitions are out of the way. A
plan has parts of the node compiled, somewhere below the current position, and goes on with their
types; it can fail and take notes, and it touches nothing else of the state.
-/
namespace SchemaTypes

inductive Plan : Type → Type 1 where
  | done {α : Type} (a : α) : Plan α
  | fail {α : Type} (fault : Fault) : Plan α
  | note (remark : Remark) : Plan Unit
  /-- Has a node compiled. -/
  | visit (node : Json) : Plan Ty
  | under {α : Type} (segments : List String) (plan : Plan α) : Plan α
  | andThen {α β : Type} (first : Plan α) (next : α → Plan β) : Plan β

namespace Plan

instance : Monad Plan where
  pure := done
  bind := andThen

def ofExcept {α : Type} : Except Fault α → Plan α
  | .ok a => done a
  | .error fault => fail fault

def unsupported {α : Type} (reason : Unsupported) : Plan α := fail (.unsupportedSchema reason)

/-- Carries out a plan with a compiler for the nodes that it visits. -/
def run (compile : NodeCompiler) : {α : Type} → Plan α → Compile α
  | _, .done a => Compile.result a
  | _, .fail fault => Compile.fail fault
  | _, .note remark => Compile.note (.ignored remark)
  | _, .visit node => compile node
  | _, .under segments plan => Compile.under segments (plan.run compile)
  | _, .andThen first next => Compile.andThen (first.run compile) fun a => (next a).run compile

end Plan

end SchemaTypes
