import SchemaTypes.Files.Tree
import SchemaTypes.Json.Reader
import SchemaTypes.Schema.Loader

/-!
Loading documents from a file tree. URLs are out of reach.
-/
namespace SchemaTypes.FileTree

def load (tree : FileTree) : Location → Except LoadError Json
  | .url url => .error (.unreachable url.text)
  | .path path =>
    match tree.read path with
    | .error reason => .error (.file path reason)
    | .ok content => (Json.read content).mapError (.malformed path)

/-- The number of bytes in all files. A document has no more values than bytes. -/
def contentSize (tree : FileTree) : Nat :=
  tree.entries.foldr (fun entry total => entry.2.size + total) 0

/-- There are fewer texts of at most this many characters. -/
def textCount (length : Nat) : Nat := Nat.pow 0x110000 (length + 1)

/-- Documents that are open at one time differ in their paths, and no path that leads to a document is
longer than the limit. -/
def loader (tree : FileTree) : Loader where
  load := tree.load
  announces := true
  budget := textCount pathLimit * tree.contentSize

end SchemaTypes.FileTree
