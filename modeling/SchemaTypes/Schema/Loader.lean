import SchemaTypes.Schema.Failure

/-!
Loaders turn a location into a document. A bundle serves documents that are given in advance, each
under the normal text of its location.
-/
namespace SchemaTypes

/-- `budget` bounds the sizes of the documents that can be open at one time, taken together. -/
structure Loader where
  load : Location → Except LoadError Json
  /-- Loading is shown in the log. -/
  announces : Bool
  budget : Nat

/-- Documents by the text of their location. -/
structure Bundle where
  documents : List (String × Json)

namespace Bundle

def empty : Bundle := ⟨[]⟩

/-- A later document replaces an earlier one under the same text. -/
def insert (bundle : Bundle) (href : String) (document : Json) : Bundle :=
  ⟨Keyed.insert bundle.documents (Location.parse href).text document⟩

def ofPairs (pairs : List (String × Json)) : Bundle :=
  pairs.foldl (fun bundle pair => bundle.insert pair.1 pair.2) empty

def load (bundle : Bundle) (location : Location) : Except LoadError Json :=
  match bundle.documents.lookup location.text with
  | some document => .ok document
  | none => .error (.notBundled location.text)

/-- A document can be open as a URL and as a path of the same text, but not more often. -/
def loader (bundle : Bundle) : Loader where
  load := bundle.load
  announces := false
  budget := 2 * Json.sizeMembers bundle.documents

end Bundle

end SchemaTypes
