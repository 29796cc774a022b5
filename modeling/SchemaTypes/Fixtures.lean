import SchemaTypes.CommandLine.Run

/-!
Checking a directory of schemas. A file whose name ends in `.fail.json` has to be rejected, and
every other `.json` file has to compile.
-/
namespace SchemaTypes.Fixtures

open CommandLine

/-- Where the schemas are unless an argument says otherwise. -/
def defaultDirectory : String := "tests/fixtures"

def expectsFailure (path : String) : Bool :=
  (FilePath.fileName? path).any fun name => ".fail.json".toList.isSuffixOf name.toList

structure Check where
  path : String
  compilation : Compilation

def Check.outcome (check : Check) : Except CompileError Ty := check.compilation.outcome

def Check.passes (check : Check) : Bool := check.outcome.isOk != expectsFailure check.path

def Check.detail (check : Check) : String :=
  match check.outcome, expectsFailure check.path with
  | .ok ty, false => ty.schema.compact
  | .error reason, true => "rejected: " ++ reason.message
  | .ok _, true => "expected an error, but the schema compiled"
  | .error reason, false => reason.message

def Check.text (check : Check) : String :=
  (if check.passes then "pass " else "FAIL ") ++ check.path ++ "\n     " ++ check.detail ++ "\n"

def check (tree : FileTree) (path : String) : Check :=
  ⟨path, Compilation.run tree.loader (.location (.path path)) .empty⟩

/-- The end of the report: either all is well, or the count of those that are not as they should
be. -/
def verdict (checks : List Check) : Exit :=
  let lines := String.join (checks.map Check.text) ++ "\n"
  let failed := (checks.filter fun c => !c.passes).length
  let total := toString checks.length
  if failed = 0 then
    ⟨0, lines ++ "all " ++ total ++ " fixtures behaved as expected\n", ""⟩
  else
    ⟨1, lines, "Error: " ++ toString failed ++ " of " ++ total
      ++ " fixtures did not behave as expected\n"⟩

def patternText (directory : String) : String := FilePath.join directory "*.json"

def checks (tree : FileTree) (directory : String) : Except PatternError (List Check) :=
  (PathPattern.read (patternText directory)).map fun pattern =>
    (tree.search pattern).map (check tree)

/-- Checks every schema of a directory, which is the first argument. -/
def program (tree : FileTree) (arguments : List String) : Exit :=
  let directory := arguments.headD defaultDirectory
  match checks tree directory with
  | .error reason => ⟨1, "", "Error: bad fixture pattern: " ++ patternText directory
      ++ "\n\nCaused by:\n    " ++ reason.message ++ "\n"⟩
  | .ok [] => ⟨1, "", "Error: no fixtures found under " ++ directory ++ "\n"⟩
  | .ok checks => verdict checks

end SchemaTypes.Fixtures
