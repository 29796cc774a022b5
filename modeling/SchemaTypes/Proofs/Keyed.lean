import Mathlib.Data.List.Forall2
import Mathlib.Data.List.Nodup
import SchemaTypes.Keyed

/-! Laws of lists of pairs: what inserting does to look-up, to keys and to members, and lists that
hold related values under the same keys. -/
namespace SchemaTypes.Keyed

variable {κ α β γ ι : Type} [DecidableEq κ]

/-- The entry in front counts first. -/
theorem lookup_cons (entry : κ × α) (rest : List (κ × α)) (key : κ) :
    (entry :: rest).lookup key = if key = entry.1 then some entry.2 else rest.lookup key := by
  rw [List.lookup_cons]
  by_cases same : key = entry.1
  · rw [if_pos same, beq_iff_eq.mpr same]
  · rw [if_neg same, beq_false_of_ne same]

@[simp] theorem lookup_insert_self (entries : List (κ × α)) (key : κ) (value : α) :
    (insert entries key value).lookup key = some value := by
  induction entries with
  | nil => simp [insert]
  | cons entry rest ih =>
    by_cases same : entry.1 = key
    · simp [insert, same]
    · rw [insert, if_neg same, lookup_cons, if_neg (Ne.symm same), ih]

theorem lookup_insert_of_ne {key other : κ} (differ : other ≠ key) (entries : List (κ × α))
    (value : α) : (insert entries key value).lookup other = entries.lookup other := by
  induction entries with
  | nil => rw [insert, lookup_cons, if_neg differ]
  | cons entry rest ih =>
    unfold insert
    by_cases same : entry.1 = key
    · rw [if_pos same, lookup_cons, lookup_cons, if_neg differ, if_neg (same ▸ differ)]
    · rw [if_neg same, lookup_cons, lookup_cons, ih]

theorem lookup_map (f : α → β) (entries : List (κ × α)) (key : κ) :
    (entries.map fun (key, value) => (key, f value)).lookup key = (entries.lookup key).map f := by
  induction entries with
  | nil => rfl
  | cons entry rest ih =>
    rw [List.map_cons, lookup_cons, lookup_cons, ih]
    by_cases same : key = entry.1
    · rw [if_pos same, if_pos same]
      rfl
    · rw [if_neg same, if_neg same]

theorem mem_of_lookup {entries : List (κ × α)} {key : κ} {value : α}
    (found : entries.lookup key = some value) : (key, value) ∈ entries := by
  induction entries with
  | nil => contradiction
  | cons entry rest ih =>
    rw [lookup_cons] at found
    split at found
    · next same =>
      cases found
      exact same ▸ List.mem_cons_self
    · exact List.mem_cons_of_mem _ (ih found)

theorem mem_insert {entries : List (κ × α)} {key : κ} {value : α} {entry : κ × α}
    (member : entry ∈ insert entries key value) : entry = (key, value) ∨ entry ∈ entries := by
  induction entries with
  | nil => simpa [insert] using member
  | cons first rest ih =>
    unfold insert at member
    grind

theorem mem_insertAll {entries pairs : List (κ × α)} {entry : κ × α}
    (member : entry ∈ insertAll entries pairs) : entry ∈ entries ∨ entry ∈ pairs := by
  induction pairs generalizing entries with
  | nil => exact Or.inl member
  | cons pair rest ih =>
    rcases ih member with earlier | later
    · rcases mem_insert earlier with rfl | old
      · exact Or.inr List.mem_cons_self
      · exact Or.inl old
    · exact Or.inr (List.mem_cons_of_mem _ later)

theorem mem_ofPairs {pairs : List (κ × α)} {entry : κ × α} (member : entry ∈ ofPairs pairs) :
    entry ∈ pairs := by
  rcases mem_insertAll member with none | member
  · contradiction
  · exact member

theorem mem_keys_insert {entries : List (κ × α)} {key other : κ} {value : α} :
    other ∈ keys (insert entries key value) ↔ other = key ∨ other ∈ keys entries := by
  induction entries with
  | nil => simp [insert, keys]
  | cons entry rest ih =>
    unfold insert
    simp only [keys] at ih ⊢
    split
    · next same => simp [same]
    · simp only [List.map_cons, List.mem_cons, ih]
      exact or_left_comm

theorem nodup_insert {entries : List (κ × α)} {key : κ} {value : α}
    (distinct : (keys entries).Nodup) : (keys (insert entries key value)).Nodup := by
  induction entries with
  | nil => exact List.nodup_singleton key
  | cons entry rest ih =>
    obtain ⟨absent, distinct⟩ := List.nodup_cons.mp distinct
    unfold insert
    split
    · next same => exact List.nodup_cons.mpr ⟨same ▸ absent, distinct⟩
    · next differ =>
      refine List.nodup_cons.mpr ⟨fun member => ?_, ih distinct⟩
      rcases mem_keys_insert.mp member with same | member
      · exact differ same
      · exact absent member

theorem nodup_insertAll {entries pairs : List (κ × α)} (distinct : (keys entries).Nodup) :
    (keys (insertAll entries pairs)).Nodup := by
  induction pairs generalizing entries with
  | nil => exact distinct
  | cons pair rest ih => exact ih (nodup_insert distinct)

theorem nodup_ofPairs (pairs : List (κ × α)) : (keys (ofPairs pairs)).Nodup :=
  nodup_insertAll List.nodup_nil

theorem insert_of_absent {entries : List (κ × α)} {key : κ} (value : α)
    (absent : key ∉ keys entries) : insert entries key value = entries ++ [(key, value)] := by
  induction entries with
  | nil => rfl
  | cons entry rest ih =>
    obtain ⟨differ, absent⟩ := not_or.mp (mt List.mem_cons.mpr absent)
    simp only [insert, if_neg (Ne.symm differ), ih absent, List.cons_append]

theorem insertAll_of_nodup {entries pairs : List (κ × α)}
    (distinct : (keys (entries ++ pairs)).Nodup) : insertAll entries pairs = entries ++ pairs := by
  induction pairs generalizing entries with
  | nil => simp [insertAll]
  | cons pair rest ih =>
    have absent : pair.1 ∉ keys entries := by
      intro member
      rw [keys, List.map_append] at distinct
      exact (List.nodup_append.mp distinct).2.2 _ member _ List.mem_cons_self rfl
    change insertAll (insert entries pair.1 pair.2) rest = _
    rw [insert_of_absent _ absent, ih (by simpa using distinct), List.append_assoc]
    rfl

/-- Where keys differ already, nothing is replaced. -/
theorem ofPairs_of_nodup {pairs : List (κ × α)} (distinct : (keys pairs).Nodup) :
    ofPairs pairs = pairs :=
  insertAll_of_nodup distinct

/-- Where keys differ, every entry is the one that is found. -/
theorem lookup_of_mem {entries : List (κ × α)} {key : κ} {value : α}
    (distinct : (keys entries).Nodup) (member : (key, value) ∈ entries) :
    entries.lookup key = some value := by
  induction entries with
  | nil => contradiction
  | cons entry rest ih =>
    obtain ⟨absent, distinct⟩ := List.nodup_cons.mp distinct
    rw [lookup_cons]
    rcases List.mem_cons.mp member with rfl | member
    · exact if_pos rfl
    · have differ : key ≠ entry.1 := by
        rintro rfl
        exact absent (List.mem_map.mpr ⟨_, member, rfl⟩)
      rw [if_neg differ]
      exact ih distinct member

theorem exists_lookup {entries : List (κ × α)} {key : κ} (member : key ∈ keys entries) :
    ∃ value, entries.lookup key = some value := by
  induction entries with
  | nil => contradiction
  | cons entry rest ih =>
    rw [lookup_cons]
    rcases List.mem_cons.mp member with same | member
    · exact ⟨entry.2, if_pos same⟩
    · split
      · exact ⟨entry.2, rfl⟩
      · exact ih member

theorem mem_keys_insertAll {entries pairs : List (κ × α)} {key : κ}
    (member : key ∈ keys entries ∨ key ∈ keys pairs) : key ∈ keys (insertAll entries pairs) := by
  induction pairs generalizing entries with
  | nil => exact member.elim id fun none => absurd none List.not_mem_nil
  | cons pair rest ih =>
    refine ih ?_
    rcases member with old | member
    · exact Or.inl (mem_keys_insert.mpr (Or.inr old))
    · rcases List.mem_cons.mp member with same | later
      · exact Or.inl (mem_keys_insert.mpr (Or.inl same))
      · exact Or.inr later

theorem mem_keys_ofPairs {pairs : List (κ × α)} {key : κ} (member : key ∈ keys pairs) :
    key ∈ keys (ofPairs pairs) :=
  mem_keys_insertAll (Or.inr member)

/-! ## Totals -/

/-- The sum of a number over all values. -/
def total (weight : α → Nat) : List (κ × α) → Nat
  | [] => 0
  | (_, value) :: rest => weight value + total weight rest

variable {weight : α → Nat} {entries pairs : List (κ × α)} {key : κ} {value old : α}

theorem total_insert_le : total weight (insert entries key value) ≤
    total weight entries + weight value := by
  induction entries with
  | nil => exact Nat.le_of_eq (Nat.add_comm _ _)
  | cons entry rest ih =>
    unfold insert
    split <;> simp only [total] <;> omega

theorem total_insertAll_le : total weight (insertAll entries pairs) ≤
    total weight entries + total weight pairs := by
  induction pairs generalizing entries with
  | nil => exact Nat.le_add_right _ _
  | cons pair rest ih =>
    have first : total weight (insert entries pair.1 pair.2) ≤
        total weight entries + weight pair.2 := total_insert_le
    have others : total weight (insertAll (insert entries pair.1 pair.2) rest) ≤
        total weight (insert entries pair.1 pair.2) + total weight rest := ih
    exact Nat.le_trans others (by simp only [total]; omega)

theorem total_ofPairs_le : total weight (ofPairs pairs) ≤ total weight pairs := by
  have bound : total weight (insertAll [] pairs) ≤ total weight ([] : List (κ × α)) +
      total weight pairs := total_insertAll_le
  rw [total, Nat.zero_add] at bound
  exact bound

/-- A new value under an old key takes the place of the old one. -/
theorem total_insert (found : entries.lookup key = some old) :
    total weight (insert entries key value) + weight old = total weight entries + weight value := by
  induction entries with
  | nil => contradiction
  | cons entry rest ih =>
    rw [lookup_cons] at found
    unfold insert
    by_cases same : entry.1 = key
    · rw [if_pos same.symm] at found
      cases found
      rw [if_pos same]
      simp only [total]
      omega
    · rw [if_neg (Ne.symm same)] at found
      rw [if_neg same]
      have others := ih found
      simp only [total]
      omega

omit [DecidableEq κ] in
theorem total_eq_zero (none : ∀ entry ∈ entries, weight entry.2 = 0) :
    total weight entries = 0 := by
  induction entries with
  | nil => rfl
  | cons entry rest ih =>
    obtain ⟨first, others⟩ := List.forall_mem_cons.mp none
    rw [total, first, ih others]

/-! ## Lists with the same keys -/

/-- The same keys in the same order, and related values under them. -/
abbrev Aligned (R : α → β → Prop) : List (κ × α) → List (κ × β) → Prop :=
  List.Forall₂ fun x y => x.1 = y.1 ∧ R x.2 y.2

namespace Aligned

variable {R : α → β → Prop} {xs : List (κ × α)} {ys : List (κ × β)} {key : κ} {a : α} {b : β}

theorem lookup (aligned : Aligned R xs ys) (found : xs.lookup key = some a) :
    ∃ b, ys.lookup key = some b ∧ R a b := by
  induction aligned with
  | nil => contradiction
  | @cons x y _ _ related _ ih =>
    rw [lookup_cons] at found ⊢
    rw [← related.1]
    split at found
    · next same =>
      cases found
      exact ⟨y.2, if_pos same, related.2⟩
    · next differ =>
      rw [if_neg differ]
      exact ih found

theorem lookup_none (aligned : Aligned R xs ys) (absent : xs.lookup key = none) :
    ys.lookup key = none := by
  induction aligned with
  | nil => rfl
  | cons related _ ih =>
    rw [lookup_cons] at absent ⊢
    rw [← related.1]
    split at absent
    · contradiction
    · next differ =>
      rw [if_neg differ]
      exact ih absent

omit [DecidableEq κ] in
theorem flip (aligned : Aligned R xs ys) : Aligned (fun b a => R a b) ys xs :=
  List.Forall₂.flip (aligned.imp fun _ _ related => ⟨related.1.symm, related.2⟩)

/-- A new value under an old key only has to fit what stands under that key on the other side. -/
theorem insert_left (aligned : Aligned R xs ys) (found : ys.lookup key = some b)
    (related : R a b) : Aligned R (Keyed.insert xs key a) ys := by
  induction aligned with
  | nil => contradiction
  | @cons x y _ _ head tail ih =>
    rw [lookup_cons, ← head.1] at found
    unfold Keyed.insert
    by_cases same : x.1 = key
    · rw [if_pos same.symm] at found
      cases found
      rw [if_pos same]
      exact .cons ⟨same ▸ head.1, related⟩ tail
    · rw [if_neg (Ne.symm same)] at found
      rw [if_neg same]
      exact .cons head (ih found)

theorem insert_right (aligned : Aligned R xs ys) (found : xs.lookup key = some a)
    (related : R a b) : Aligned R xs (Keyed.insert ys key b) :=
  (aligned.flip.insert_left found related).flip

theorem insert (aligned : Aligned R xs ys) (related : R a b) :
    Aligned R (Keyed.insert xs key a) (Keyed.insert ys key b) := by
  induction aligned with
  | nil => exact .cons ⟨rfl, related⟩ .nil
  | @cons x y _ _ head tail ih =>
    unfold Keyed.insert
    by_cases same : x.1 = key
    · rw [if_pos same, if_pos (head.1 ▸ same)]
      exact .cons ⟨rfl, related⟩ tail
    · rw [if_neg same, if_neg (head.1 ▸ same)]
      exact .cons head ih

/-- Where one value was changed, the old one may stand again if it fits all that the new one
does. -/
theorem of_insert {old : α} (aligned : Aligned R (Keyed.insert xs key a) ys)
    (found : xs.lookup key = some old) (weaker : ∀ b, R a b → R old b) : Aligned R xs ys := by
  induction xs generalizing ys with
  | nil => contradiction
  | cons x rest ih =>
    rw [lookup_cons] at found
    unfold Keyed.insert at aligned
    by_cases same : x.1 = key
    · rw [if_pos same.symm] at found
      rw [if_pos same] at aligned
      cases aligned with
      | cons head tail =>
        refine .cons ⟨same.trans head.1, ?_⟩ tail
        exact Option.some.inj found ▸ weaker _ head.2
    · rw [if_neg (Ne.symm same)] at found
      rw [if_neg same] at aligned
      cases aligned with
      | cons head tail => exact .cons head (ih tail found)

/-- Where one value was changed, the old one may stand again if the other side takes a value that
fits it. -/
theorem exchange {old : α} (aligned : Aligned R (Keyed.insert xs key a) ys)
    (found : xs.lookup key = some old) (related : R old b) :
    Aligned R xs (Keyed.insert ys key b) := by
  induction xs generalizing ys with
  | nil => contradiction
  | cons x rest ih =>
    rw [lookup_cons] at found
    unfold Keyed.insert at aligned
    by_cases same : x.1 = key
    · rw [if_pos same.symm] at found
      rw [if_pos same] at aligned
      cases aligned with
      | cons head tail =>
        rw [Keyed.insert, if_pos head.1.symm]
        exact .cons ⟨same, Option.some.inj found ▸ related⟩ tail
    · rw [if_neg (Ne.symm same)] at found
      rw [if_neg same] at aligned
      cases aligned with
      | cons head tail =>
        rw [Keyed.insert, if_neg (head.1 ▸ same)]
        exact .cons head (ih tail found)

omit [DecidableEq κ] in
/-- Three lists with the same keys, related in pairs. -/
theorem join {S : α → γ → Prop} {T : β → γ → Prop} {U : α → γ → Prop} {zs : List (κ × γ)}
    (first : Aligned R xs ys) (second : Aligned S xs zs) (between : Aligned T ys zs)
    (joins : ∀ a b c, R a b → S a c → T b c → U a c) : Aligned U xs zs := by
  induction first generalizing zs with
  | nil =>
    cases second
    exact .nil
  | cons head _ ih =>
    cases second with
    | cons head' tail' =>
      cases between with
      | cons step steps =>
        exact .cons ⟨head'.1, joins _ _ _ head.2 head'.2 step.2⟩ (ih tail' steps)

omit [DecidableEq κ] in
theorem trans {S : β → γ → Prop} {T : α → γ → Prop} {zs : List (κ × γ)}
    (first : Aligned R xs ys) (second : Aligned S ys zs)
    (composes : ∀ a b c, R a b → S b c → T a c) : Aligned T xs zs := by
  induction first generalizing zs with
  | nil =>
    cases second
    exact .nil
  | cons head _ ih =>
    cases second with
    | cons next rest =>
      exact .cons ⟨head.1.trans next.1, composes _ _ _ head.2 next.2⟩ (ih rest)

omit [DecidableEq κ] in
theorem keys_eq (aligned : Aligned R xs ys) : keys ys = keys xs := by
  induction aligned with
  | nil => rfl
  | cons related _ ih =>
    simp only [keys] at ih ⊢
    rw [List.map_cons, List.map_cons, related.1, ih]

omit [DecidableEq κ] in
/-- Values that shrink in every place have a smaller total. -/
theorem total_le {left : α → Nat} {right : β → Nat} (aligned : Aligned R xs ys)
    (shrinks : ∀ a b, R a b → right b ≤ left a) : total right ys ≤ total left xs := by
  induction aligned with
  | nil => exact Nat.le_refl _
  | cons related _ ih => exact Nat.add_le_add (shrinks _ _ related.2) ih

theorem insertAll {pairs : List (κ × α)} {pairs' : List (κ × β)} (aligned : Aligned R xs ys)
    (added : Aligned R pairs pairs') :
    Aligned R (Keyed.insertAll xs pairs) (Keyed.insertAll ys pairs') := by
  induction added generalizing xs ys with
  | nil => exact aligned
  | @cons pair pair' rest rest' first _ ih =>
    have inserted : Aligned R (Keyed.insert xs pair.1 pair.2)
        (Keyed.insert ys pair'.1 pair'.2) := by
      rw [← first.1]
      exact aligned.insert first.2
    exact ih inserted

theorem ofPairs {items : List ι} {name : ι → κ} {left : ι → α} {right : ι → β}
    (related : ∀ item ∈ items, R (left item) (right item)) :
    Aligned R (Keyed.ofPairs (items.map fun item => (name item, left item)))
      (Keyed.ofPairs (items.map fun item => (name item, right item))) := by
  refine insertAll .nil (List.forall₂_map_left_iff.mpr (List.forall₂_map_right_iff.mpr ?_))
  exact List.forall₂_same.mpr fun item member => ⟨rfl, related item member⟩

end Aligned

end SchemaTypes.Keyed
