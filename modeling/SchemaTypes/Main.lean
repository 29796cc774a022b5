import SchemaTypes.Disk
import SchemaTypes.Fixtures

/-! The program on disk: files come in as they are asked for, and changes go out at the end. -/

namespace SchemaTypes

def finish (exit : CommandLine.Exit) : IO UInt32 := do
  (← IO.getStdout).putStr exit.output
  (← IO.getStderr).putStr exit.errors
  return UInt32.ofNat exit.status

/-- Takes in whatever a command looks at before it opens documents. -/
def CommandLine.prepare (arguments : Arguments) : IO FileTree := do
  let tree ← Disk.start
  let tree ← arguments.inputs.foldlM (fun tree input =>
    if PathPattern.isPattern input && !isUrl input then Disk.survey tree input else pure tree) tree
  match arguments.out with
  | some path => Disk.probe true tree path
  | none => return tree

/-- The documents that a command opens. -/
def CommandLine.documents (arguments : Arguments) (tree : FileTree) : List Location :=
  match compilations tree arguments with
  | .ok compilations => compilations.flatMap fun (_, compilation) => compilation.opened
  | .error _ => []

def CommandLine.showLog (tree : FileTree) (arguments : Arguments) : IO Unit := do
  if arguments.verbose then
    if let .ok compilations := compilations tree arguments then
      for (_, compilation) in compilations do
        for line in compilation.log do
          if line.level ≠ .trace then
            let fields := line.fields.map fun (name, value) => name ++ "=" ++ value.compact
            (← IO.getStderr).putStrLn
              (String.intercalate " " (line.level.text :: line.message :: fields))

def Fixtures.documents (directory : String) (tree : FileTree) : List Location :=
  match checks tree directory with
  | .ok checks => checks.flatMap (·.compilation.opened)
  | .error _ => []

def Fixtures.main (arguments : List String) : IO UInt32 := do
  let directory := arguments.headD defaultDirectory
  let tree ← Disk.survey (← Disk.start) (patternText directory)
  finish (program (← Disk.gather (documents directory) tree []) arguments)

end SchemaTypes

open SchemaTypes in
def main (arguments : List String) : IO UInt32 := do
  match CommandLine.Arguments.read arguments with
  | .error _ => finish (CommandLine.program (← Disk.start) arguments).1
  | .ok read =>
    let tree ← Disk.gather (CommandLine.documents read) (← CommandLine.prepare read) []
    CommandLine.showLog tree read
    let (exit, after) := CommandLine.program tree arguments
    Disk.apply tree after
    finish exit
