import SchemaTypes.Schema.Failure
import SchemaTypes.Schema.Journal
import SchemaTypes.Schema.Scope

/-!
Computations that compile. There is one state for a whole compilation: every change that belongs to
a part of a schema only is taken back by hand when the part is done, after a failure too.
-/
namespace SchemaTypes

/-- Where a compilation stands, the documents that are open, innermost first, the names in scope,
the number of blocks met so far, and the events, the latest first. -/
structure State where
  position : Position
  opened : List Location.Key
  scope : Scope
  blocks : Nat
  journal : List Event

def State.start (registry : Registry) : State where
  position := ⟨none, []⟩
  opened := []
  scope := Scope.ofRegistry registry
  blocks := 1
  journal := []

def State.entering (state : State) (slots : List (String × Slot)) : State :=
  { state with scope := ⟨state.blocks, slots⟩ :: state.scope, blocks := state.blocks + 1 }

/-- A computation that ends with a result or an error, and with a state in either case. -/
def Compile (α : Type) : Type := State → Except CompileError α × State

namespace Compile

def result {α : Type} (a : α) : Compile α := fun state => (.ok a, state)

def andThen {α β : Type} (first : Compile α) (next : α → Compile β) : Compile β := fun state =>
  match first state with
  | (.ok a, state) => next a state
  | (.error e, state) => (.error e, state)

instance : Monad Compile where
  pure := result
  bind := andThen

def raise {α : Type} (error : CompileError) : Compile α := fun state => (.error error, state)

def fail {α : Type} (fault : Fault) : Compile α := fun state =>
  raise (fault.error state.position) state

def ofExcept {α : Type} : Except Fault α → Compile α
  | .ok a => result a
  | .error fault => fail fault

def note (event : Position → Event) : Compile Unit := fun state =>
  (.ok (), { state with journal := event state.position :: state.journal })

def read {α : Type} (look : State → α) : Compile α := fun state => (.ok (look state), state)

/-- Runs a computation further down in the current document; the path is cut back to its old length
behind it. -/
def under {α : Type} (segments : List String) (body : Compile α) : Compile α := fun state =>
  let depth := state.position.path.length
  let (outcome, after) := body { state with position.path := state.position.path ++ segments }
  (outcome, { after with position.path := after.position.path.take depth })

/-- Runs a computation at another place, and comes back. -/
def within {α : Type} (position : Position) (body : Compile α) : Compile α := fun state =>
  let (outcome, after) := body { state with position }
  (outcome, { after with position := state.position })

/-- Runs a computation while a document is open, and closes the innermost document behind it. -/
def opening {α : Type} (location : Location) (body : Compile α) : Compile α := fun state =>
  let (outcome, after) := body { state with opened := location.key :: state.opened }
  (outcome, { after with opened := after.opened.drop 1 })

/-- Runs a computation with a new layer inside the scope, and takes the innermost layer away behind
it. -/
def withLayer {α : Type} (slots : List (String × Slot)) (body : Compile α) : Compile α :=
  fun state =>
    let (outcome, after) := body (state.entering slots)
    (outcome, { after with scope := after.scope.drop 1 })

end Compile

abbrev NodeCompiler := Json → Compile Ty

end SchemaTypes
