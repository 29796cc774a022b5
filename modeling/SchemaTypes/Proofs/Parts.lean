import SchemaTypes.Proofs.Body

/-! The parts of a value that are compiled: parts of a body, entries of a block, and what a pointer
leads to; and how large they are. -/
namespace SchemaTypes

namespace Json

theorem size_pos (value : Json) : 0 < value.size := by
  cases value <;> simp [size]

theorem size_le_sizeItems {items : List Json} {item : Json} (member : item ∈ items) :
    item.size ≤ sizeItems items := by
  induction items with
  | nil => contradiction
  | cons first rest ih =>
    unfold sizeItems
    rcases List.mem_cons.mp member with rfl | member
    · exact Nat.le_add_right _ _
    · exact Nat.le_trans (ih member) (Nat.le_add_left _ _)

theorem size_le_sizeMembers {members : Members} {key : String} {value : Json}
    (member : (key, value) ∈ members) : value.size ≤ sizeMembers members := by
  induction members with
  | nil => contradiction
  | cons first rest ih =>
    unfold sizeMembers
    rcases List.mem_cons.mp member with rfl | member
    · exact Nat.le_add_right _ _
    · exact Nat.le_trans (ih member) (Nat.le_add_left _ _)

/-- The size of what stands under a key, if anything does. -/
def sizeAt (members : Members) (key : String) : Nat := ((members.get? key).map size).getD 0

theorem sizeAt_of_get? {members : Members} {key : String} {value : Json}
    (found : members.get? key = some value) : sizeAt members key = value.size := by
  simp [sizeAt, found]

theorem sizeAt_cons (key : String) (value : Json) (rest : Members) (other : String) :
    sizeAt ((key, value) :: rest) other =
      if other = key then value.size else sizeAt rest other := by
  simp only [sizeAt, Members.get?, Keyed.lookup_cons]
  split <;> rfl

theorem sizeAt_le (members : Members) (key : String) :
    sizeAt members key ≤ sizeMembers members := by
  induction members with
  | nil => exact Nat.zero_le _
  | cons member rest ih =>
    rw [sizeAt_cons, sizeMembers]
    split
    · exact Nat.le_add_right _ _
    · exact Nat.le_trans ih (Nat.le_add_left _ _)

/-- What stands under two keys is not counted twice. -/
theorem sizeAt_add_le (members : Members) {key other : String} (differ : key ≠ other) :
    sizeAt members key + sizeAt members other ≤ sizeMembers members := by
  induction members with
  | nil => exact Nat.le_refl _
  | cons member rest ih =>
    rw [sizeAt_cons, sizeAt_cons, sizeMembers]
    by_cases first : key = member.1
    · rw [if_pos first, if_neg (first ▸ Ne.symm differ)]
      exact Nat.add_le_add_left (sizeAt_le rest other) _
    · rw [if_neg first]
      by_cases second : other = member.1
      · rw [if_pos second, Nat.add_comm]
        exact Nat.add_le_add_left (sizeAt_le rest key) _
      · rw [if_neg second]
        exact Nat.le_trans ih (Nat.le_add_left _ _)

/-- What goes down to members and items goes down to wherever a path leads. -/
theorem at?_keeps {holds : Json → Prop}
    (down : ∀ value segment part, child? value segment = some part → holds value → holds part)
    {path : List String} {value part : Json} (found : value.at? path = some part)
    (start : holds value) : holds part := by
  induction path generalizing value with
  | nil =>
    cases found
    exact start
  | cons segment path ih =>
    obtain ⟨child, first, rest⟩ := Option.bind_eq_some_iff.mp found
    exact ih rest (down value segment child first start)

theorem pointer?_keeps {holds : Json → Prop}
    (down : ∀ value segment part, child? value segment = some part → holds value → holds part)
    {pointer : String} {value part : Json} (found : value.pointer? pointer = some part)
    (start : holds value) : holds part := by
  unfold pointer? at found
  split at found
  · cases found
    exact start
  · split at found
    · exact at?_keeps down found start
    · cases found

theorem child?_size {value part : Json} {segment : String}
    (found : value.child? segment = some part) : part.size ≤ value.size := by
  cases value with
  | obj members =>
    exact Nat.le_succ_of_le (size_le_sizeMembers (Keyed.mem_of_lookup found))
  | arr items =>
    obtain ⟨index, -, found⟩ := Option.bind_eq_some_iff.mp found
    exact Nat.le_succ_of_le (size_le_sizeItems (List.mem_of_getElem? found))
  | _ => cases found

theorem pointer?_size {pointer : String} {value part : Json}
    (found : value.pointer? pointer = some part) : part.size ≤ value.size :=
  pointer?_keeps (fun _ _ _ found fits => Nat.le_trans (child?_size found) fits) found
    (Nat.le_refl value.size)

end Json

theorem Node.Part.size_le {members : Members} {path : List String} {node : Json}
    (part : Part members path node) : node.size ≤ Json.sizeMembers members := by
  have within {key : String} {value : Json} (found : members.get? key = some value)
      (inside : node.size ≤ value.size) : node.size ≤ Json.sizeMembers members :=
    Nat.le_trans inside (Json.size_le_sizeMembers (Keyed.mem_of_lookup found))
  cases part with
  | alternative found member | conjunct found member =>
    exact within found (Nat.le_succ_of_le (Json.size_le_sizeItems (List.mem_of_getElem? member)))
  | property found member =>
    exact within found (Nat.le_succ_of_le (Json.size_le_sizeMembers member))
  | items found => exact within found (Nat.le_refl _)

namespace Definitions

/-- The sizes of all bodies of a block. -/
def bodySizes : List Entry → Nat
  | [] => 0
  | entry :: rest => entry.node.size + bodySizes rest

theorem bodySizes_append (first second : List Entry) :
    bodySizes (first ++ second) = bodySizes first + bodySizes second := by
  induction first with
  | nil => exact (Nat.zero_add _).symm
  | cons entry rest ih => rw [List.cons_append, bodySizes, bodySizes, ih, Nat.add_assoc]

/-- What the bodies of a block weigh does not depend on what they are declared as. -/
theorem total_map_entries {α : Type} {weight : α → Nat} (slot : Entry → α)
    (weighs : ∀ entry, weight (slot entry) = entry.node.size) (entries : List Entry) :
    Keyed.total weight (entries.map fun entry => (entry.name, slot entry)) = bodySizes entries := by
  induction entries with
  | nil => rfl
  | cons entry rest ih => rw [List.map_cons, Keyed.total, bodySizes, weighs, ih]

theorem block_size {members : Members} {keyword : String} {entries : List Entry}
    (read : block members keyword = .ok entries) :
    bodySizes entries ≤ Json.sizeAt members keyword := by
  unfold block at read
  split at read <;> cases read
  · exact Nat.zero_le _
  · exact Nat.zero_le _
  · next definitions found =>
    rw [Json.sizeAt_of_get? found, Json.size]
    refine Nat.le_succ_of_le (Nat.le_of_eq ?_)
    clear found
    induction definitions with
    | nil => rfl
    | cons definition rest ih => rw [List.map_cons, bodySizes, Json.sizeMembers, ih]

theorem entries_ok {members : Members} {entries : List Entry}
    (read : Definitions.entries members = .ok entries) :
    ∃ first second, block members "definitions" = .ok first ∧ block members "$defs" = .ok second ∧
      entries = first ++ second := by
  simp only [Definitions.entries, keywords, List.mapM_cons, List.mapM_nil] at read
  cases first : block members "definitions" with
  | error fault =>
    rw [first] at read
    cases read
  | ok one =>
    cases second : block members "$defs" with
    | error fault =>
      rw [first, second] at read
      cases read
    | ok two =>
      rw [first, second] at read
      cases read
      exact ⟨one, two, rfl, rfl, by simp⟩

theorem mem_block {members : Members} {keyword : String} {entries : List Entry} {entry : Entry}
    (read : block members keyword = .ok entries) (member : entry ∈ entries) :
    entry.keyword = keyword ∧ ∃ definitions, members.get? keyword = some (.obj definitions) ∧
      (entry.name, entry.node) ∈ definitions := by
  unfold block at read
  split at read <;> cases read
  · contradiction
  · contradiction
  · next definitions found =>
    obtain ⟨⟨name, node⟩, inside, rfl⟩ := List.mem_map.mp member
    exact ⟨rfl, definitions, found, inside⟩

/-- An entry of a node stands in the block of its keyword. -/
theorem mem_entries {members : Members} {entries : List Entry} {entry : Entry}
    (read : Definitions.entries members = .ok entries) (member : entry ∈ entries) :
    entry.keyword ∈ keywords ∧ ∃ definitions,
      members.get? entry.keyword = some (.obj definitions) ∧
        (entry.name, entry.node) ∈ definitions := by
  obtain ⟨first, second, one, two, rfl⟩ := entries_ok read
  rcases List.mem_append.mp member with member | member
  · obtain ⟨keyword, inside⟩ := mem_block one member
    rw [keyword]
    exact ⟨by decide, inside⟩
  · obtain ⟨keyword, inside⟩ := mem_block two member
    rw [keyword]
    exact ⟨by decide, inside⟩

/-- All that stands in the block of a keyword is an entry. -/
theorem mem_entries_of_block {members definitions : Members} {entries : List Entry}
    {keyword name : String} {node : Json} (read : Definitions.entries members = .ok entries)
    (listed : keyword ∈ keywords) (found : members.get? keyword = some (.obj definitions))
    (inside : (name, node) ∈ definitions) : ⟨keyword, name, node⟩ ∈ entries := by
  obtain ⟨first, second, one, two, rfl⟩ := entries_ok read
  have given {block' : List Entry} (read : block members keyword = .ok block') :
      ⟨keyword, name, node⟩ ∈ block' := by
    rw [block, found] at read
    cases read
    exact List.mem_map.mpr ⟨(name, node), inside, rfl⟩
  rcases List.mem_cons.mp listed with rfl | listed
  · exact List.mem_append_left _ (given one)
  · cases List.mem_singleton.mp listed
    exact List.mem_append_right _ (given two)

theorem bodySizes_le {members : Members} {entries : List Entry}
    (read : Definitions.entries members = .ok entries) :
    bodySizes entries ≤ Json.sizeMembers members := by
  obtain ⟨first, second, one, two, rfl⟩ := entries_ok read
  rw [bodySizes_append]
  have apart : Json.sizeAt members "definitions" + Json.sizeAt members "$defs" ≤
      Json.sizeMembers members := Json.sizeAt_add_le members (by decide)
  have left := block_size one
  have right := block_size two
  omega

end Definitions

end SchemaTypes
