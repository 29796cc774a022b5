import Mathlib.Data.Finset.Card
import Mathlib.Data.Finset.Image
import Mathlib.Data.Nat.Digits.Defs
import SchemaTypes.Proofs.Budget
import SchemaTypes.Proofs.DocumentSize
import SchemaTypes.Schema.Files

/-! With the files of a tree every compilation ends within the depth that it is given. A document can
be open under as many paths as lead to it, but there are only so many texts that are short enough to
be followed. -/
namespace SchemaTypes.FileTree

variable {tree : FileTree} {location : Location} {document : Json} {path : String}

/-! ## Documents in a tree -/

theorem length_le_utf8ByteSize (text : String) : text.length ≤ text.utf8ByteSize := by
  have chars (cs : List Char) : cs.length ≤ (String.ofList cs).utf8ByteSize := by
    induction cs with
    | nil => exact Nat.le_refl _
    | cons c rest ih =>
      have first := c.utf8Size_pos
      rw [← List.singleton_append, String.ofList_append, String.utf8ByteSize_append,
        ← String.singleton_eq_ofList, String.utf8ByteSize_singleton, List.length_append]
      simp only [List.length_singleton]
      omega
  have whole := chars text.toList
  rwa [String.ofList_toList, String.length_toList] at whole

theorem size_le_contentSize {place : Place} {entry : FileEntry}
    (member : (place, entry) ∈ tree.entries) : entry.size ≤ tree.contentSize := by
  unfold contentSize
  generalize tree.entries = entries at member
  induction entries with
  | nil => contradiction
  | cons first rest ih =>
    rw [List.foldr_cons]
    rcases List.mem_cons.mp member with rfl | member
    · exact Nat.le_add_right _ _
    · exact Nat.le_trans (ih member) (Nat.le_add_left _ _)

theorem length_of_read {content : List UInt8} (read : tree.read path = .ok content) :
    path.length ≤ pathLimit ∧ content.length ≤ tree.contentSize := by
  unfold FileTree.read at read
  obtain ⟨place, led, read⟩ := Except.ok_of_bind read
  constructor
  · obtain ⟨_, checked, -⟩ := Except.ok_of_bind led
    have bytes := length_le_utf8ByteSize path
    unfold checkText at checked
    split at checked
    · cases checked
    · split at checked
      · cases checked
      · omega
  · split at read
    · next found =>
      cases read
      unfold get? at found
      split at found
      · cases found
      · obtain ⟨before, after, same, -⟩ := List.lookup_eq_some_iff.mp found
        exact size_le_contentSize (same ▸ List.mem_append_right _ List.mem_cons_self)
    · cases read
    · cases read

/-- What a tree has for a location is at a path that is not long, and no larger than all files. -/
theorem load_ok (loaded : tree.load location = .ok document) :
    ∃ path, location = .path path ∧ path.length ≤ pathLimit ∧ document.size ≤ tree.contentSize := by
  cases location with
  | url url => cases loaded
  | path path =>
    simp only [load] at loaded
    cases found : tree.read path with
    | error reason =>
      rw [found] at loaded
      cases loaded
    | ok content =>
      rw [found] at loaded
      obtain ⟨short, small⟩ := length_of_read found
      cases read : Json.read content with
      | error reason =>
        simp [read, Except.mapError] at loaded
      | ok value =>
        simp only [read, Except.mapError, Except.ok.injEq] at loaded
        subst loaded
        exact ⟨path, rfl, short, Nat.le_trans (Json.read_size read) small⟩

/-! ## Paths -/

/-- A text from its code: the digits are its characters, with one more behind them. -/
def textOf (code : Nat) : String :=
  String.ofList ((Nat.digits 0x110000 code).dropLast.map Char.ofNat)

/-- Texts that are not long have small codes. -/
theorem exists_textOf {limit : Nat} {text : String} (short : text.length ≤ limit) :
    ∃ code < textCount limit, textOf code = text := by
  have digits : ∀ digit ∈ text.toList.map Char.toNat ++ [1], digit < 0x110000 := by
    simp only [List.mem_append, List.mem_map, List.mem_singleton]
    rintro _ (⟨c, -, rfl⟩ | rfl)
    · rcases c.valid with low | ⟨-, high⟩
      · exact Nat.lt_trans low (by decide)
      · exact high
    · decide
  refine ⟨Nat.ofDigits 0x110000 (text.toList.map Char.toNat ++ [1]), ?_, ?_⟩
  · refine Nat.lt_of_lt_of_le (Nat.ofDigits_lt_base_pow_length (by decide) digits) ?_
    refine Nat.pow_le_pow_right (by decide) ?_
    simpa [← String.length_toList] using short
  · unfold textOf
    rw [Nat.digits_ofDigits _ (by decide) _ digits (by simp), List.dropLast_concat, List.map_map,
      show Char.ofNat ∘ Char.toNat = id from funext Char.ofNat_toNat, List.map_id,
      String.ofList_toList]

/-- The keys of all paths that can be followed. -/
def pathKeys : Finset Location.Key :=
  (Finset.range (textCount pathLimit)).image fun code => (Location.path (textOf code)).key

theorem mem_pathKeys (short : path.length ≤ pathLimit) : (Location.path path).key ∈ pathKeys := by
  obtain ⟨code, small, rfl⟩ := exists_textOf short
  exact Finset.mem_image_of_mem _ (Finset.mem_range.mpr small)

/-- How many keys there are that no document is open under. -/
def closedKeys (opened : List Location.Key) : Nat := (pathKeys.filter (· ∉ opened)).card

theorem closedKeys_le (opened : List Location.Key) : closedKeys opened ≤ textCount pathLimit := by
  have keys : pathKeys.card ≤ textCount pathLimit :=
    Nat.le_trans Finset.card_image_le (Nat.le_of_eq (Finset.card_range _))
  exact Nat.le_trans (Finset.card_filter_le _ _) keys

/-- A document that is opened takes a key away. -/
theorem closedKeys_lt {opened : List Location.Key} {key : Location.Key} (known : key ∈ pathKeys)
    (closed : key ∉ opened) : closedKeys (key :: opened) < closedKeys opened := by
  refine Finset.card_lt_card ((Finset.ssubset_iff_of_subset fun other member => ?_).mpr ⟨key, ?_, ?_⟩)
  · simp only [Finset.mem_filter, List.mem_cons, not_or] at member ⊢
    exact ⟨member.1, member.2.2⟩
  · exact Finset.mem_filter.mpr ⟨known, closed⟩
  · simp

/-! ## Ends -/

/-- All nodes may be compiled, and each key that is left pays for a document. -/
def ration (tree : FileTree) : Ration :=
  ⟨fun _ => True, fun opened => closedKeys opened * tree.contentSize⟩

theorem ration_covers (tree : FileTree) : tree.ration.Covers tree.loader where
  part := fun _ _ _ _ _ => trivial
  entry := fun _ _ _ _ _ _ => trivial
  document := by
    intro _ _ opened location document _ _ _ loaded closed
    refine ⟨trivial, fun _ _ _ => trivial, ?_⟩
    obtain ⟨path, rfl, short, small⟩ := load_ok loaded
    have fewer := closedKeys_lt (mem_pathKeys short) closed
    calc closedKeys ((Location.path path).key :: opened) * tree.contentSize + document.size
      _ ≤ (closedKeys ((Location.path path).key :: opened) + 1) * tree.contentSize := by
        rw [Nat.succ_mul]
        exact Nat.add_le_add_left small _
      _ ≤ closedKeys opened * tree.contentSize := Nat.mul_le_mul_right _ fewer

/-- With the files of a tree no compilation uses up its budget. -/
theorem compilesTo_iff {source : Source} {registry : Registry}
    {outcome : Except CompileError Ty} : CompilesTo tree.loader source registry outcome ↔
      compile tree.loader source registry = outcome :=
  CompilesTo.iff_compile (tree.ration_covers.start_ends (fun _ => trivial)
    (Nat.mul_le_mul_right _ (closedKeys_le [])) source registry)

end SchemaTypes.FileTree
