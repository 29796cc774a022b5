import SchemaTypes.Json.Pointer
import SchemaTypes.Location.Basic

/-!
Where a node stands: the document that holds it, none for a schema given inline, and the path to it.
-/
namespace SchemaTypes

structure Position where
  document : Option Location
  path : List String
  deriving Repr

namespace Position

/-- The document's location, a hash, and the path as a pointer. -/
def text (position : Position) : String :=
  (position.document.map Location.text).getD "" ++ "#" ++ Pointer.text position.path

end Position

end SchemaTypes
