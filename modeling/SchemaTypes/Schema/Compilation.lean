import SchemaTypes.Schema.Node

/-!
Compiling a schema from start to end. Every compilation starts with its own scope, made from a
registry of types that are known beforehand, so one loader and one registry serve any number of
them.
-/
namespace SchemaTypes

inductive Source where
  | inline (schema : Json)
  | location (location : Location)

def Source.ofText (href : String) : Source := .location (Location.parse href)

structure Compilation where
  outcome : Except CompileError Ty
  events : List Event

namespace Compilation

/-- A bound on the nesting of a compilation that starts at `root`: on the way down no value of an
open document is met twice. -/
def depth (loader : Loader) (root : Json) : Nat := root.size + loader.budget + 1

/-- Compiles a source, with a bound on the nesting for each root. -/
def startWithin (loader : Loader) (bound : Json → Nat) : Source → Compile Ty
  | .inline schema => Node.compile loader (bound schema) schema
  | .location location => do
    let root ← Reference.load loader location
    Compile.opening location
      (Compile.within ⟨some location, []⟩ (Node.compile loader (bound root) root))

def start (loader : Loader) (source : Source) : Compile Ty :=
  startWithin loader (depth loader) source

def run (loader : Loader) (source : Source) (registry : Registry) : Compilation :=
  let (outcome, state) := start loader source (State.start registry)
  ⟨outcome, state.journal.reverse⟩

def log (compilation : Compilation) : List LogLine := compilation.events.filterMap Event.log?

/-- The locations that were asked for, failures included. -/
def opened (compilation : Compilation) : List Location :=
  compilation.events.filterMap Event.opened?

end Compilation

def compile (loader : Loader) (source : Source) (registry : Registry) : Except CompileError Ty :=
  (Compilation.run loader source registry).outcome

end SchemaTypes
