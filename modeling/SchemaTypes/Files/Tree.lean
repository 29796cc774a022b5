import SchemaTypes.Files.Error
import SchemaTypes.Keyed
import SchemaTypes.Location.FilePath

/-!
A finite tree of files without links, and what reading and writing by path does to it.

A path is followed name by name from the working directory, or from the top if it is absolute. Every
name but the last has to lead to a directory, `.` stays there and `..` goes up; above the top is the
top. Two paths name the same file exactly when they lead to the same place.
-/
namespace SchemaTypes

/-- The names that lead from the top of a tree to an entry. -/
abbrev Place := List String

inductive FileEntry where
  | file (content : List UInt8)
  | directory
  deriving DecidableEq, Repr

def FileEntry.size : FileEntry → Nat
  | .file content => content.length
  | .directory => 0

/-- What is at each place, and the working directory. The top is a directory without an entry. -/
structure FileTree where
  entries : List (Place × FileEntry)
  home : Place

namespace FileTree

def get? (tree : FileTree) (place : Place) : Option FileEntry :=
  if place = [] then some .directory else tree.entries.lookup place

def put (tree : FileTree) (place : Place) (entry : FileEntry) : FileTree :=
  { tree with entries := Keyed.insert tree.entries place entry }

def isDirectoryAt (tree : FileTree) (place : Place) : Bool := tree.get? place == some .directory

/-- The places on the way to a place, the top first and the place itself left out. -/
def above (place : Place) : List Place := (List.range place.length).map place.take

/-- Puts an entry at a place, and directories on the way to it. -/
def add (tree : FileTree) (place : Place) (entry : FileEntry) : FileTree :=
  let missing := (above place).filter fun way => (tree.get? way).isNone
  (missing.foldl (fun tree way => tree.put way .directory) tree).put place entry

def ofHome (home : Place) : FileTree :=
  if home = [] then ⟨[], []⟩ else add ⟨[], home⟩ home .directory

/-! ## Following a path -/

def nameLimit : Nat := 255

def pathLimit : Nat := 4095

/-- Where a name leads from a place. The last place reached need not exist. -/
def step (tree : FileTree) (place : Place) (name : List Char) : Except FileError Place :=
  match tree.get? place with
  | none => .error .notFound
  | some (.file _) => .error .notDirectory
  | some .directory =>
    if FilePath.isIdle name then .ok place
    else if name = ['.', '.'] then .ok place.dropLast
    else if nameLimit < (String.ofList name).utf8ByteSize then .error .nameTooLong
    else .ok (place ++ [String.ofList name])

def follow (tree : FileTree) (place : Place) (names : List (List Char)) : Except FileError Place :=
  names.foldlM tree.step place

/-- A path that can be followed at all. -/
def checkText (path : String) : Except FileError Unit :=
  if path.toList.any (·.toNat == 0) then .error .nulInName
  else if pathLimit < path.utf8ByteSize then .error .nameTooLong
  else if path.isEmpty then .error .notFound
  else .ok ()

def start (tree : FileTree) (path : String) : Place :=
  if FilePath.isAbsolute path then [] else tree.home

def locate (tree : FileTree) (path : String) : Except FileError Place := do
  checkText path
  tree.follow (tree.start path) (FilePath.pieces path.toList)

def reach? (tree : FileTree) (path : String) : Option FileEntry :=
  match tree.locate path with
  | .ok place => tree.get? place
  | .error _ => none

def isDirectory (tree : FileTree) (path : String) : Bool :=
  tree.reach? path == some .directory

/-! ## Reading -/

def read (tree : FileTree) (path : String) : Except FileError (List UInt8) := do
  match tree.get? (← tree.locate path) with
  | some (.file content) => .ok content
  | some .directory => .error .isDirectory
  | none => .error .notFound

def names (tree : FileTree) (directory : Place) : List String :=
  let inside := tree.entries.filterMap fun (place, _) =>
    if place.dropLast = directory then place.getLast? else none
  inside.mergeSort fun a b => decide (a ≤ b)

/-! ## Writing -/

/-- The text without the slashes at its end, the first character apart. -/
def trimSlashes (path : String) : String :=
  let text := path.toList
  String.ofList (text.take 1 ++ ((text.drop 1).reverse.dropWhile FilePath.isSlash).reverse)

/-- Replaces a file or makes a new one. A slash at the end asks for a directory. -/
def write (tree : FileTree) (path : String) (content : List UInt8) : Except FileError FileTree := do
  checkText path
  let trimmed := trimSlashes path
  if trimmed = path then
    let place ← tree.locate path
    if tree.isDirectoryAt place then .error .isDirectory
    else .ok (tree.put place (.file content))
  else
    let way := (FilePath.pieces trimmed.toList).dropLast
    let _ ← tree.follow (tree.start path) (way ++ [['.']])
    .error .isDirectory

def makeDirectory (tree : FileTree) (path : String) : Except FileError FileTree := do
  checkText path
  let place ← tree.locate (trimSlashes path)
  match tree.get? place with
  | some _ => .error .exists
  | none => .ok (tree.put place .directory)

/-- Makes a directory, and first the missing ones on the way to it. A directory that is there is
left as it is; those that were made before a failure stay. -/
def makeDirectories (tree : FileTree) (path : String) : Except FileError Unit × FileTree :=
  if path.isEmpty || tree.isDirectory path then (.ok (), tree)
  else
    match tree.makeDirectory path with
    | .ok tree => (.ok (), tree)
    | .error .notFound =>
      match up : FilePath.parent? path with
      | none => (.error .notFound, tree)
      | some way =>
        have := FilePath.length_lt_of_parent? up
        match tree.makeDirectories way with
        | (.error e, tree) => (.error e, tree)
        | (.ok (), tree) =>
          if tree.isDirectory path then (.ok (), tree)
          else
            match tree.makeDirectory path with
            | .ok tree => (.ok (), tree)
            | .error e => (.error e, tree)
    | .error e => (.error e, tree)
termination_by path.length

/-! ## Comparison -/

/-- The files of `after` that `before` does not hold with the same content. -/
def changes (before after : FileTree) : List (Place × List UInt8) :=
  after.entries.filterMap fun (place, entry) =>
    match entry with
    | .directory => none
    | .file content => if before.get? place = some entry then none else some (place, content)

end FileTree

end SchemaTypes
