import SchemaTypes.Proofs.Budget
import SchemaTypes.Proofs.OpenDocuments
import SchemaTypes.Schema.Files

/-! Which file a path leads to, against how the path is spelled. Documents are told apart by the
components of their paths, files by the place that a path leads to. For paths that take the same steps
as far as they go up the two are the same, so that no file is opened twice under such paths. -/
namespace SchemaTypes

namespace FilePath

/-- The component that a path starts with, if it is not a step. -/
def origin (path : String) : List Component :=
  if isAbsoluteText path.toList then [.root]
  else if startsHere path.toList then [.here]
  else []

/-- The steps of a path behind its start. -/
def steps (path : String) : List Component :=
  ((pieces path.toList).filter (!isIdle ·)).map Component.ofPiece

theorem components_eq (path : String) : components path = origin path ++ steps path := rfl

/-- Two paths start alike, take the same steps as far as either goes up, and then only go down. -/
structure Alike (path other : String) : Prop where
  origin : origin path = origin other
  steps : ∃ (front : List Component) (names names' : List String),
    steps path = front ++ names.map .name ∧ steps other = front ++ names'.map .name

theorem isAbsolute_iff (path : String) : isAbsolute path = true ↔ origin path = [.root] := by
  unfold origin isAbsolute
  by_cases absolute : isAbsoluteText path.toList = true
  · simp [absolute]
  · by_cases here : startsHere path.toList = true <;> simp [absolute, here]

theorem Alike.absolute {path other : String} (alike : Alike path other) :
    isAbsolute path = isAbsolute other := by
  rw [Bool.eq_iff_iff, isAbsolute_iff, isAbsolute_iff, alike.origin]

end FilePath

namespace FileTree

open FilePath

variable {tree : FileTree} {place reached : Place} {path other : String}

/-- Where a step leads in a tree that has everything. -/
def moved (place : Place) : Component → Place
  | .parent => place.dropLast
  | .name text => place ++ [text]
  | _ => place

theorem moved_names (names : List String) (place : Place) :
    (names.map Component.name).foldl moved place = place ++ names := by
  induction names generalizing place with
  | nil => simp
  | cons name rest ih => simp [moved, ih]

/-- A path that can be followed leads where its steps lead. -/
theorem follow_eq {names : List (List Char)} (led : tree.follow place names = .ok reached) :
    reached = ((names.filter (!isIdle ·)).map Component.ofPiece).foldl moved place := by
  induction names generalizing place with
  | nil =>
    cases led
    rfl
  | cons name rest ih =>
    obtain ⟨next, stepped, led⟩ := Except.ok_of_bind (show tree.step place name >>= _ = _ from led)
    rw [ih led]
    unfold step at stepped
    split at stepped
    · cases stepped
    · cases stepped
    · by_cases idle : isIdle name = true
      · rw [if_pos idle] at stepped
        cases stepped
        simp [idle]
      · rw [if_neg idle] at stepped
        by_cases up : name = ['.', '.']
        · rw [if_pos up] at stepped
          cases stepped
          subst up
          rfl
        · rw [if_neg up] at stepped
          split at stepped
          · cases stepped
          · cases stepped
            simp [idle, Component.ofPiece, up, moved]

/-- Paths that are spelled alike and lead to one place have the same components. -/
theorem components_eq_of_located (alike : Alike path other)
    (led : tree.locate path = .ok place) (led' : tree.locate other = .ok place) :
    components path = components other := by
  obtain ⟨-, -, followed⟩ := Except.ok_of_bind led
  obtain ⟨-, -, followed'⟩ := Except.ok_of_bind led'
  obtain ⟨front, names, names', spelled, spelled'⟩ := alike.steps
  have start : tree.start path = tree.start other := by
    rw [FileTree.start, FileTree.start, alike.absolute]
  have one : place = (FilePath.steps path).foldl moved (tree.start path) := follow_eq followed
  have two : place = (FilePath.steps other).foldl moved (tree.start other) := follow_eq followed'
  rw [two, start, spelled, spelled', List.foldl_append, List.foldl_append, moved_names,
    moved_names] at one
  have same : names' = names := List.append_cancel_left one
  rw [components_eq, components_eq, alike.origin, spelled, spelled', same]

/-- The place of the file at a location. -/
def file? (tree : FileTree) : Location → Option Place
  | .url _ => none
  | .path path =>
    match tree.locate path with
    | .error _ => none
    | .ok place =>
      match tree.get? place with
      | some (.file _) => some place
      | _ => none

/-- Two locations lead to one file. -/
def SameFile (tree : FileTree) (location other : Location) : Prop :=
  ∃ place, tree.file? location = some place ∧ tree.file? other = some place

end FileTree

/-- Locations in a file tree, with paths that are spelled alike. -/
inductive Location.Alike : Location → Location → Prop where
  | path {path other : String} : FilePath.Alike path other → Alike (.path path) (.path other)

namespace FileTree

variable {tree : FileTree} {location other : Location}

theorem located_of_file? {path : String} {place : Place}
    (found : tree.file? (.path path) = some place) : tree.locate path = .ok place := by
  simp only [file?] at found
  cases led : tree.locate path with
  | error error =>
    rw [led] at found
    cases found
  | ok reached =>
    rw [led] at found
    dsimp only at found
    split at found
    · cases found
      rfl
    · cases found

/-- For paths that are spelled alike, the key of a location tells its file. -/
theorem SameFile.key_eq (same : tree.SameFile location other) (alike : location.Alike other) :
    location.key = other.key := by
  obtain ⟨place, here, there⟩ := same
  cases alike with
  | path alike =>
    have components := components_eq_of_located alike (located_of_file? here)
      (located_of_file? there)
    rw [Location.key, Location.key, components]

def hasPath (path : String) : Location → Bool
  | .url _ => false
  | .path text => text == path

theorem eq_of_hasPath {location : Location} (told : hasPath path location = true) :
    location = .path path := by
  cases location with
  | url url => cases told
  | path text => exact congrArg Location.path (beq_iff_eq.mp told)

/-- An event tells that a reference was looked up at the root of a file. -/
def resolvesIn (path reference : String) : Event → Bool
  | .resolving text ⟨some document, []⟩ => hasPath path document && text == reference
  | _ => false

theorem eq_of_resolvesIn {reference : String} {event : Event}
    (told : resolvesIn path reference event = true) :
    event = .resolving reference ⟨some (.path path), []⟩ := by
  unfold resolvesIn at told
  split at told
  · simp only [Bool.and_eq_true, beq_iff_eq] at told
    rw [eq_of_hasPath told.1, told.2]
  · cases told

open Event

/-- While documents are loaded from a tree of files, a file that is open is opened once more only
under a path of other components, and then one that is not spelled alike. The reference that would open
it again under the same components is where the compilation ends, with a cycle. -/
theorem compile_reopens_nothing (tree : FileTree) (budget : Nat) (source : Source)
    (registry : Registry) :
    let run := Compilation.run (tree.loader.withBudget budget) source registry
    (∀ before location shown after,
      run.events = before ++ .opening location shown :: after →
      ∀ other ∈ openDocuments before, tree.SameFile location other →
      location.key ≠ other.key ∧ ¬location.Alike other) ∧
    ∀ before reference position after,
      run.events = before ++ .resolving reference position :: after →
      ∀ location, (Event.resolving reference position).external? = some location →
      ∀ other ∈ openDocuments before, tree.SameFile location other →
      location.key = other.key ∨ location.Alike other →
      after = [] ∧ run.outcome = .error (.cyclicReference reference position) := by
  intro run
  constructor
  · intro before location shown after happened other member same
    rcases Compilation.run_opens_closed _ source registry happened (.inl rfl) with apart | ended
    · exact ⟨apart other member, fun alike => apart other member (same.key_eq alike)⟩
    · obtain ⟨-, _, _, differs, -⟩ := ended
      cases differs
  · intro before reference position after happened location asked other member same spelled
    have key : location.key = other.key := spelled.elim id same.key_eq
    rcases Compilation.run_opens_closed _ source registry happened (.inr asked) with apart | ended
    · exact (apart other member key).elim
    · obtain ⟨last, _, _, same, outcome⟩ := ended
      cases same
      exact ⟨last, outcome⟩

/-- A file in one directory that refers to a file in another, which refers to itself. -/
def neighbouringFiles : FileTree where
  entries := [
    (["d"], .directory),
    (["d", "a.json"], .file "\x7b\"$ref\":\"../c/b.json\"\x7d".toUTF8.toList),
    (["c"], .directory),
    (["c", "b.json"], .file "\x7b\"$ref\":\"b.json\"\x7d".toUTF8.toList)]
  home := []

/-- The second file is the end of the compilation, since it is open and spelled as before. -/
theorem compile_reopens_nothing_neighbouringFiles :
    let run := Compilation.run (neighbouringFiles.loader.withBudget 20)
      (.location (.path "d/a.json")) .empty
    ∃ before, run.events = before ++ [.resolving "b.json" ⟨some (.path "d/../c/b.json"), []⟩] ∧
      run.outcome = .error (.cyclicReference "b.json" ⟨some (.path "d/../c/b.json"), []⟩) := by
  intro run
  have told : (run.events.drop 5).map (resolvesIn "d/../c/b.json" "b.json") = [true] := by
    decide +kernel
  have opened : (openDocuments (run.events.take 5)).any (hasPath "d/../c/b.json") = true := by
    decide +kernel
  have happened : run.events = run.events.take 5 ++
      [.resolving "b.json" ⟨some (.path "d/../c/b.json"), []⟩] := by
    obtain ⟨event, last, resolves⟩ := List.map_eq_singleton_iff.mp told
    rw [← eq_of_resolvesIn resolves, ← last, List.take_append_drop]
  have stands : Location.path "d/../c/b.json" ∈ openDocuments (run.events.take 5) := by
    obtain ⟨location, member, found⟩ := List.any_eq_true.mp opened
    rw [← eq_of_hasPath found]
    exact member
  have same : neighbouringFiles.SameFile (.path "d/../c/b.json") (.path "d/../c/b.json") :=
    ⟨["c", "b.json"], by decide +kernel, by decide +kernel⟩
  have alike : Location.Alike (.path "d/../c/b.json") (.path "d/../c/b.json") :=
    .path ⟨rfl, [.name "d", .parent], ["c", "b.json"], ["c", "b.json"], by decide +kernel,
      by decide +kernel⟩
  obtain ⟨-, outcome⟩ := (compile_reopens_nothing neighbouringFiles 20
    (.location (.path "d/a.json")) .empty).2 _ _ _ _ happened (.path "d/../c/b.json") rfl _ stands
    same (.inr alike)
  exact ⟨_, happened, outcome⟩

/-- A file that refers to itself as a file of this directory. -/
def selfReferringFile : FileTree where
  entries := [(["a.json"], .file "\x7b\"$ref\":\"./a.json\"\x7d".toUTF8.toList)]
  home := []

/-- Under two spellings one file is open twice before the cycle is seen. -/
theorem compile_opens_file_twice :
    let run := Compilation.run selfReferringFile.loader (.location (.path "a.json")) .empty
    (openDocuments run.events).map Location.text = ["./a.json", "a.json"] ∧
      selfReferringFile.SameFile (.path "./a.json") (.path "a.json") :=
  ⟨by decide +kernel, ["a.json"], by decide +kernel, by decide +kernel⟩

end FileTree

end SchemaTypes
