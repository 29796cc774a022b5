import SchemaTypes.Files.Search
import SchemaTypes.Location.Basic

/-!
Taking files from disk into a tree as a run asks for them, and writing back what it changed.
-/
namespace SchemaTypes.Disk

def pathOf (place : Place) : String := "/" ++ String.intercalate "/" place

def start : IO FileTree := do
  let home := toString (← IO.currentDir)
  let names := (FilePath.pieces home.toList).filter (!FilePath.isIdle ·)
  return FileTree.ofHome (names.map String.ofList)

/-- Takes in what is at a place, and the content of a file only if it is wanted. -/
def look (wanted : Bool) (tree : FileTree) (place : Place) : IO FileTree := do
  let path := (← IO.currentDir) / pathOf place
  if ← path.isDir then
    return if (tree.get? place).isSome then tree else tree.put place .directory
  if ← path.pathExists then
    let content ← if wanted then IO.FS.readBinFile path else pure ByteArray.empty
    return tree.put place (.file content.toList)
  return tree

/-- Takes in the entries that following a path leads to. -/
def probe (wanted : Bool) (tree : FileTree) (path : String) : IO FileTree := do
  let names := FilePath.pieces path.toList
  let mut tree := tree
  for count in List.range names.length do
    match tree.follow (tree.start path) (names.take (count + 1)) with
    | .ok place => tree ← look wanted tree place
    | .error _ => return tree
  return tree

/-- Takes in the names below the directory in which the special part of a pattern starts. -/
def survey (tree : FileTree) (pattern : String) : IO FileTree := do
  let fixed := (FilePath.pieces pattern.toList).takeWhile fun name =>
    !PathPattern.isPattern (String.ofList name)
  let directory := String.ofList (['/'].intercalate fixed)
  let found ← ((← IO.currentDir) / directory).walkDir
  found.foldlM (fun tree path => probe false tree (toString path)) tree

/-- Takes in documents until a run asks for no others; `documents` are those it asks for. -/
partial def gather (documents : FileTree → List Location) (tree : FileTree)
    (seen : List String) : IO FileTree := do
  let missing := (documents tree).filterMap fun location =>
    match location with
    | .path path => if seen.contains path then none else some path
    | .url _ => none
  if missing.isEmpty then return tree
  let tree ← missing.foldlM (probe true) tree
  gather documents tree (seen ++ missing)

def apply (before after : FileTree) : IO Unit := do
  for (place, entry) in after.entries do
    if before.get? place ≠ some entry then
      match entry with
      | .directory => IO.FS.createDirAll (pathOf place)
      | .file content => IO.FS.writeBinFile (pathOf place) (ByteArray.mk content.toArray)

end SchemaTypes.Disk
