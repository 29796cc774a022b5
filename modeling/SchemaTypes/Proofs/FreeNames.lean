import SchemaTypes.Proofs.Drafting

/-! The search for a free name, as a loop that tries the base and then one numbered name after another
until one is free. The loop ends, since no two numbers make one name, and what it ends with is the first
free name in that order. -/
namespace SchemaTypes

namespace DataModel

/-- The loop with `name` to be tried next and `n` as the number behind it ends with `found`. -/
inductive Search (taken : List String) (base separator : String) : String → Nat → String → Prop where
  | free {name : String} {n : Nat} : name ∉ taken → Search taken base separator name n name
  | taken {name found : String} {n : Nat} : name ∈ taken →
      Search taken base separator (numbered base separator n) (n + 1) found →
      Search taken base separator name n found

/-- The first free name, and the names taken when it is taken too. -/
def takeFree (taken : List String) (base separator : String) : String × List String :=
  (nextFree taken base separator, nextFree taken base separator :: taken)

variable {taken : List String} {base separator name found other : String} {n : Nat}

namespace Search

theorem not_mem (search : Search taken base separator name n found) : found ∉ taken := by
  induction search with
  | free absent => exact absent
  | taken _ _ ih => exact ih

/-- The loop can end in one way only. -/
theorem unique (search : Search taken base separator name n found)
    (again : Search taken base separator name n other) : found = other := by
  induction search with
  | free absent =>
    cases again with
    | free => rfl
    | taken present => exact (absent present).elim
  | taken present _ ih =>
    cases again with
    | free absent => exact (absent present).elim
    | taken _ rest => exact ih rest

/-- The loop ends with the name it starts from, or passes that name and all numbered ones that are taken
until it meets one that is not. -/
theorem outcome (search : Search taken base separator name n found) :
    name ∉ taken ∧ found = name ∨ name ∈ taken ∧ ∃ k, n ≤ k ∧ found = numbered base separator k ∧
      ∀ j, n ≤ j → j < k → numbered base separator j ∈ taken := by
  induction search with
  | free absent => exact .inl ⟨absent, rfl⟩
  | @taken name found n present _ ih =>
    refine .inr ⟨present, ?_⟩
    rcases ih with ⟨-, same⟩ | ⟨known, k, later, same, passed⟩
    · exact ⟨n, Nat.le_refl n, same, fun j low high => absurd high (Nat.not_lt.mpr low)⟩
    · refine ⟨k, Nat.le_of_succ_le later, same, fun j low high => ?_⟩
      rcases Nat.eq_or_lt_of_le low with rfl | low
      · exact known
      · exact passed j low high

end Search

/-- A search that ends at a free name ends as the loop does. -/
theorem search_firstFree {bound : Nat} (free : firstFree taken base separator bound n ∉ taken) :
    Search taken base separator (numbered base separator n) (n + 1)
      (firstFree taken base separator bound n) := by
  induction bound generalizing n with
  | zero => exact .free free
  | succ bound ih =>
    unfold firstFree at free ⊢
    split
    · next known =>
      rw [if_pos known] at free
      exact .taken (List.contains_iff_mem.mp known) (ih free)
    · next absent => exact .free (mt List.contains_iff_mem.mpr absent)

/-- The loop from the base and the number two on ends with the name that is taken next. -/
theorem search_nextFree (taken : List String) (base separator : String) :
    Search taken base separator base 2 (nextFree taken base separator) := by
  have free := nextFree_not_mem taken base separator
  unfold nextFree at free ⊢
  split
  · next known =>
    rw [if_pos known] at free
    exact .taken (List.contains_iff_mem.mp known) (search_firstFree free)
  · next absent => exact .free (mt List.contains_iff_mem.mpr absent)

/-- The search for a free name ends, and only with this name: the base when it is free, otherwise the base
with the separator and the least number from two on for which the name is free. It was not taken before,
and afterwards it is taken beside the names that were. Items and fields are named in this way. -/
theorem takeFree_first :
    (∀ (taken : List String) (base separator : String),
      let (name, after) := takeFree taken base separator
      (∀ found, Search taken base separator base 2 found ↔ found = name) ∧
        (base ∉ taken ∧ name = base ∨ base ∈ taken ∧ ∃ k, 2 ≤ k ∧
          name = base ++ separator ++ toString k ∧
          ∀ j, 2 ≤ j → j < k → base ++ separator ++ toString j ∈ taken) ∧
        name ∉ taken ∧ ∀ other, other ∈ after ↔ other = name ∨ other ∈ taken) ∧
    (∀ hint draft, Draft.claim hint draft =
      ((takeFree draft.taken (itemName hint) "").1,
        { draft with taken := (takeFree draft.taken (itemName hint) "").2 })) ∧
    ∀ idents field rest, Record.fieldItems idents (field :: rest) = (do
      let (ident, idents) := takeFree idents (fieldIdent field.name) "_"
      let type ← field.typeExpr
      let items ← Record.fieldItems idents rest
      pure (field.item ident type :: items)) := by
  refine ⟨fun taken base separator => ?_, fun hint draft => rfl, fun idents field rest => ?_⟩
  · have search := search_nextFree taken base separator
    refine ⟨fun found => ⟨fun again => again.unique search, ?_⟩, search.outcome, search.not_mem, ?_⟩
    · rintro rfl
      exact search
    · exact fun other => List.mem_cons
  · rw [Record.fieldItems]
    rfl

end DataModel

end SchemaTypes
