import SchemaTypes.Files.Pattern
import SchemaTypes.Files.Tree

/-!
The paths in a file tree that a pattern describes, in alphabetical order name by name. A path is
written as the pattern leads to it, without a leading `./`.
-/
namespace SchemaTypes.FileTree

def child (directory name : String) : String :=
  if FilePath.same directory "." then name else FilePath.join directory name

def namesIn (tree : FileTree) (directory : String) : List String :=
  match tree.locate directory with
  | .ok place => if tree.isDirectoryAt place then tree.names place else []
  | .error _ => []

/-- What `each` finds at the paths below a directory, at every depth. The bound is on the depth. -/
def walk (tree : FileTree) (each : String → String → List String) :
    Nat → String → List String
  | 0, _ => []
  | depth + 1, directory => (tree.namesIn directory).flatMap fun name =>
    let path := child directory name
    each path name ++ tree.walk each depth path

def isSelfOrParent (name : String) : Bool := name == "." || name == ".."

def hasEntry (tree : FileTree) (directory name : String) : Bool :=
  if isSelfOrParent name then tree.isDirectory directory
  else (tree.reach? (child directory name)).isSome

/-- The paths that lead on from `path` through the names of a pattern. -/
def through (tree : FileTree) (directories : Bool) (pattern : List NamePattern) (path : String) :
    List String :=
  match pattern with
  | [] => if directories && !tree.isDirectory path then [] else [path]
  | .literal name :: rest =>
    if tree.hasEntry path name then tree.through directories rest (child path name) else []
  | [.anyDepth] => descend path fun path _ => if tree.isDirectory path then [path] else []
  | .anyDepth :: .anyDepth :: rest => tree.through directories (.anyDepth :: rest) path
  | .anyDepth :: next :: rest => descend path fun path name =>
    if next.accepts name then tree.through directories rest path else []
  | wild :: rest =>
    let special := if wild.startsWithDot && tree.isDirectory path then ["..", "."] else []
    ((special.filter wild.accepts).flatMap fun name =>
        tree.through directories rest (FilePath.join path name))
      ++ ((tree.namesIn path).filter wild.accepts).flatMap fun name =>
        tree.through directories rest (child path name)
termination_by pattern.length
where
  descend (path : String) (each : String → String → List String) : List String :=
    tree.walk each (tree.entries.length + 1) path

def search (tree : FileTree) (pattern : PathPattern) : List String :=
  tree.through pattern.directories pattern.names (if pattern.absolute then "/" else ".")

end SchemaTypes.FileTree
