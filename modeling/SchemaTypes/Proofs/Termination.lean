import SchemaTypes.Proofs.Depth
import SchemaTypes.Proofs.Refinement

/-! With a bundle of documents every compilation ends within the depth that it is given, and a
larger depth gives the same. A document is open at most once as a URL and once as a path of its
text, which bounds what the open documents hold together. -/
namespace SchemaTypes

namespace Bundle

/-- What a document can still add under a key: nothing, when it is open under it. -/
def unopened (opened : List Location.Key) (key : Location.Key) (document : Json) : Nat :=
  if key ∈ opened then 0 else document.size

/-- What the document under a text can still add, as a URL and as a path. -/
def share (opened : List Location.Key) (text : String) (document : Json) : Nat :=
  unopened opened (.url text) document + unopened opened (Location.path text).key document

/-- What documents can still add together. -/
def remaining (opened : List Location.Key) : Members → Nat
  | [] => 0
  | (text, document) :: rest => share opened text document + remaining opened rest

variable {opened : List Location.Key} {key other : Location.Key} {documents : Members}

theorem unopened_cons_le (document : Json) :
    unopened (key :: opened) other document ≤ unopened opened other document := by
  unfold unopened
  by_cases already : other ∈ opened
  · rw [if_pos (List.mem_cons_of_mem _ already)]
    exact Nat.zero_le _
  · rw [if_neg already]
    split
    · exact Nat.zero_le _
    · exact Nat.le_refl _

theorem unopened_cons_self (closed : key ∉ opened) (document : Json) :
    unopened (key :: opened) key document + document.size = unopened opened key document := by
  simp [unopened, closed]

theorem share_cons_le (text : String) (document : Json) :
    share (key :: opened) text document ≤ share opened text document :=
  Nat.add_le_add (unopened_cons_le document) (unopened_cons_le document)

/-- A location takes its own part of the share of its text. -/
theorem share_opening {location : Location} (closed : location.key ∉ opened) (document : Json) :
    share (location.key :: opened) location.text document + document.size ≤
      share opened location.text document := by
  have own := unopened_cons_self closed document
  unfold share
  cases location with
  | url u =>
    have path : unopened ((Location.url u).key :: opened) (Location.path u.text).key document ≤
        unopened opened (Location.path u.text).key document := unopened_cons_le document
    simp only [Location.text, Location.key] at own path ⊢
    omega
  | path p =>
    have url : unopened ((Location.path p).key :: opened) (.url p) document ≤
        unopened opened (.url p) document := unopened_cons_le document
    simp only [Location.text] at own url ⊢
    omega

theorem remaining_cons_le : remaining (key :: opened) documents ≤ remaining opened documents := by
  induction documents with
  | nil => exact Nat.le_refl _
  | cons entry rest ih => exact Nat.add_le_add (share_cons_le _ _) ih

theorem remaining_opening {location : Location} {document : Json}
    (found : documents.lookup location.text = some document) (closed : location.key ∉ opened) :
    remaining (location.key :: opened) documents + document.size ≤ remaining opened documents := by
  have here := Keyed.mem_of_lookup found
  clear found
  induction documents with
  | nil => contradiction
  | cons entry rest ih =>
    unfold remaining
    rcases List.mem_cons.mp here with rfl | here
    · have own := share_opening closed document
      have others : remaining (location.key :: opened) rest ≤ remaining opened rest :=
        remaining_cons_le
      dsimp only
      omega
    · have own : share (location.key :: opened) entry.1 entry.2 ≤ share opened entry.1 entry.2 :=
        share_cons_le _ _
      have others := ih here
      omega

theorem remaining_nil : remaining [] documents = 2 * Json.sizeMembers documents := by
  induction documents with
  | nil => rfl
  | cons entry rest ih =>
    simp only [remaining, Json.sizeMembers, ih, share, unopened, List.not_mem_nil, if_false]
    omega

theorem load_ok {bundle : Bundle} {location : Location} {document : Json}
    (loaded : bundle.load location = .ok document) :
    bundle.documents.lookup location.text = some document := by
  unfold load at loaded
  split at loaded
  · next found =>
    cases loaded
    exact found
  · cases loaded

/-- All nodes may be compiled, and each document is counted once for each key it can have. -/
def ration (bundle : Bundle) : Ration :=
  ⟨fun _ => True, fun opened => remaining opened bundle.documents⟩

theorem ration_covers (bundle : Bundle) : bundle.ration.Covers bundle.loader where
  part := fun _ _ _ _ _ => trivial
  entry := fun _ _ _ _ _ _ => trivial
  document := fun _ _ _ _ _ _ _ _ loaded closed =>
    ⟨trivial, fun _ _ _ => trivial, remaining_opening (load_ok loaded) closed⟩

end Bundle

/-- With a budget that covers all documents, every compilation ends. -/
theorem Ration.Covers.start_ends {ration : Ration} {loader : Loader} (covers : ration.Covers loader)
    (admits : ∀ node, ration.admitted node) (enough : ration.rest [] ≤ loader.budget)
    (source : Source) (registry : Registry) :
    (Compilation.start loader source).EndsFrom (State.start registry) := by
  obtain ⟨bodies, bounded⟩ := State.Within.start ration registry
  cases source with
  | inline schema =>
    exact Node.compile_ends covers _ schema loader.budget (admits schema) (Nat.le_succ _) _
      ⟨bodies, Nat.le_trans bounded enough⟩
  | location location =>
    refine Compile.EndsFrom.bind (Reference.load_ends _ _ _) fun root after ran => ?_
    obtain ⟨loaded, rfl⟩ := Reference.load_ok ran
    -- The first document is paid for as if a reference had opened it.
    have paid := (covers.document [("$ref", .str "")] "" [] location root (admits _) rfl rfl loaded
      List.not_mem_nil).2.2
    refine Compile.EndsFrom.opening (Compile.EndsFrom.within ?_)
    refine Node.compile_ends covers _ root loader.budget (admits root) (Nat.le_succ _) _ ⟨bodies, ?_⟩
    simp only [State.start] at bounded ⊢
    omega

namespace Compilation

theorem start_ends (bundle : Bundle) (source : Source) (registry : Registry) :
    (start bundle.loader source).EndsFrom (State.start registry) :=
  bundle.ration_covers.start_ends (fun _ => trivial) (Nat.le_of_eq Bundle.remaining_nil) source
    registry

theorem startWithin_refines (loader : Loader) (bound : Json → Nat) (extra : Nat)
    (source : Source) : (startWithin loader bound source).Refines
      (startWithin loader (fun root => bound root + extra) source) := by
  cases source with
  | inline schema => exact Node.compile_refines_add loader _ extra schema
  | location location =>
    exact (Compile.Refines.refl _).bind fun root =>
      ((Node.compile_refines_add loader _ extra root).within _).opening _

end Compilation

/-- With documents given in advance every compilation ends, whatever they refer to: the bound on the
depth, computed from the root and the documents, is never met, and no larger bound has another
outcome or leaves another state. -/
theorem compile_terminates (bundle : Bundle) (source : Source) (registry : Registry) :
    compile bundle.loader source registry ≠ .error .exhausted ∧
      ∀ extra, Compilation.startWithin bundle.loader
          (fun root => Compilation.depth bundle.loader root + extra) source (State.start registry) =
        Compilation.start bundle.loader source (State.start registry) := by
  have ends := Compilation.start_ends bundle source registry
  refine ⟨ends, fun extra => ?_⟩
  rcases Compilation.startWithin_refines bundle.loader (Compilation.depth bundle.loader) extra
    source (State.start registry) with stopped | same
  · exact (ends stopped).elim
  · exact same

end SchemaTypes
