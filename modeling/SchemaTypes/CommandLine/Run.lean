import SchemaTypes.CommandLine.Arguments
import SchemaTypes.DataModel.Draft
import SchemaTypes.Files.Search
import SchemaTypes.Json.Printer
import SchemaTypes.Schema.Compilation
import SchemaTypes.Schema.Files
import SchemaTypes.Ty.Form
import SchemaTypes.Ty.Schema

/-!
Running a command: every input is compiled on its own, and what is printed of the types goes to a
file or to standard output. One input is printed by itself, several under their names.
-/
namespace SchemaTypes.CommandLine

inductive RunError where
  | malformedPattern (pattern : String) (reason : PatternError)
  | noMatch (pattern : String)
  | compilation (input : String) (reason : CompileError)
  | makeDirectory (path : String) (reason : FileError)
  | write (path : String) (reason : FileError)

def RunError.chain : RunError → List String
  | .malformedPattern pattern reason => ["bad glob pattern: " ++ pattern, reason.message]
  | .noMatch pattern => ["glob pattern matched no files: " ++ pattern]
  | .compilation input (.load reason) =>
    ["failed to compile " ++ input, reason.message, reason.reason]
  | .compilation input reason => ["failed to compile " ++ input, reason.message]
  | .makeDirectory path reason => ["failed to create " ++ path, reason.text]
  | .write path reason => ["failed to write " ++ path, reason.text]

def RunError.message (error : RunError) : String := String.intercalate ": " error.chain

/-! ## Inputs -/

def isUrl (text : String) : Bool :=
  match Location.parse text with
  | .url _ => true
  | .path _ => false

/-- The inputs that one argument stands for: itself, or the files that match it as a pattern. -/
def inputsOf (tree : FileTree) (text : String) : Except RunError (List String) :=
  if isUrl text || !PathPattern.isPattern text then .ok [text]
  else
    match PathPattern.read text with
    | .error reason => .error (.malformedPattern text reason)
    | .ok pattern =>
      match tree.search pattern with
      | [] => .error (.noMatch text)
      | found => .ok found

def resolveInputs (tree : FileTree) (texts : List String) : Except RunError (List String) :=
  (texts.mapM (inputsOf tree)).map List.flatten

/-- A schema that stands for an input, or for the node that a pointer names in it. -/
def inputSchema (pointer : Option String) (input : String) : Json :=
  let reference := match pointer with
    | none => input
    | some pointer => input ++ "#" ++ pointer
  .obj [("$ref", .str reference)]

def compileInput (tree : FileTree) (pointer : Option String) (input : String) : Compilation :=
  Compilation.run tree.loader (.inline (inputSchema pointer input)) .empty

def compilations (tree : FileTree) (arguments : Arguments) :
    Except RunError (List (String × Compilation)) :=
  (resolveInputs tree arguments.inputs).map fun inputs =>
    inputs.map fun input => (input, compileInput tree arguments.pointer input)

def types (compilations : List (String × Compilation)) : Except RunError (List (String × Ty)) :=
  compilations.mapM fun (input, compilation) =>
    match compilation.outcome with
    | .ok ty => .ok (input, ty)
    | .error reason => .error (.compilation input reason)

/-! ## Output -/

/-- One value by itself; several under the names of their inputs. -/
def keyed (values : List (String × Json)) : Json :=
  match values with
  | [(_, value)] => value
  | values => .obj (Keyed.ofPairs values)

/-- The name of a file up to its first dot. -/
def fileStem (input : String) : String :=
  let path := match Location.parse input with
    | .url url => url.lastSegment
    | .path path => path
  let name := (FilePath.fileName? path).getD path
  String.ofList (name.toList.takeWhile (· != '.'))

/-- The data model of all types; with one type, its root is called `root`. -/
def dataModel (root : String) (types : List (String × Ty)) : String :=
  let draft := match types with
    | [(_, ty)] => (DataModel.Draft.emit ty root).run .empty
    | types => (types.forM fun (input, ty) => DataModel.Draft.emit ty (fileStem input)).run .empty
  draft.2.source

def outputText (arguments : Arguments) (types : List (String × Ty)) : String :=
  match arguments.command with
  | .schema => (keyed (types.map fun (input, ty) => (input, ty.schema))).pretty
  | .ir => (keyed (types.map fun (input, ty) => (input, ty.toJson))).pretty
  | .dataModel => dataModel arguments.rootName types

def writeOutput (tree : FileTree) (path text : String) : Except RunError Unit × FileTree :=
  match FilePath.parent? path with
  | none => finish tree
  | some directory =>
    match tree.makeDirectories directory with
    | (.error reason, tree) => (.error (.makeDirectory directory reason), tree)
    | (.ok (), tree) => finish tree
where
  finish (tree : FileTree) : Except RunError Unit × FileTree :=
    match tree.write path (Utf8.encode text) with
    | .error reason => (.error (.write path reason), tree)
    | .ok tree => (.ok (), tree)

/-! ## The command -/

def output (tree : FileTree) (arguments : Arguments) : Except RunError String := do
  let types ← types (← compilations tree arguments)
  return outputText arguments types

structure Report where
  outcome : Except RunError Unit
  output : String
  tree : FileTree

/-- A line break ends what goes to standard output, but not what goes to a file. -/
def run (tree : FileTree) (arguments : Arguments) : Report :=
  match output tree arguments, arguments.out with
  | .error reason, _ => ⟨.error reason, "", tree⟩
  | .ok text, none => ⟨.ok (), text ++ "\n", tree⟩
  | .ok text, some path =>
    let (outcome, tree) := writeOutput tree path text
    ⟨outcome, "", tree⟩

structure Exit where
  status : Nat
  output : String
  errors : String

/-- Runs the program with its arguments; the tree is what is left of the files. -/
def program (tree : FileTree) (arguments : List String) : Exit × FileTree :=
  match Arguments.read arguments with
  | .error .helpWanted => (⟨0, usage, ""⟩, tree)
  | .error reason => (⟨2, "", "error: " ++ reason.message ++ "\n\n" ++ usage⟩, tree)
  | .ok arguments =>
    let report := run tree arguments
    let exit : Exit := match report.outcome with
      | .ok () => ⟨0, report.output, ""⟩
      | .error reason => ⟨1, report.output, "error: " ++ reason.message ++ "\n"⟩
    (exit, report.tree)
where
  usage : String :=
    "Usage: schema-types [-v] <schema|rust|ir> -i <INPUT>... [--json-pointer <POINTER>] "
      ++ "[--timeout-secs <SECONDS>] [--root-type <NAME>] [-o <FILE>]\n"

end SchemaTypes.CommandLine
