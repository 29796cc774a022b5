import Mathlib.Data.List.Perm.Subperm
import SchemaTypes.Proofs.Distinct

/-! Equality of values, which passes over the order of members, is symmetric and transitive where no
object holds a key twice. -/
namespace SchemaTypes

theorem Number.same_symm {a b : Number} (same : a.same b = true) : b.same a = true := by
  cases a <;> cases b <;> simp_all [Number.same, Binary64.same_comm]

theorem Number.same_trans {a b c : Number} (first : a.same b = true) (second : b.same c = true) :
    a.same c = true := by
  cases a <;> cases b <;> cases c <;> simp_all [Number.same]
  exact Binary64.same_trans first second

namespace Json

theorem same_arr_iff {as bs : List Json} :
    (arr as).same (arr bs) = true ↔ as.length = bs.length ∧
      ∀ (i : Nat) (a : Json), as[i]? = some a → ∃ b, bs[i]? = some b ∧ a.same b = true := by
  rw [same]
  induction as generalizing bs with
  | nil => cases bs <;> simp [sameItems]
  | cons a as ih =>
    cases bs with
    | nil => simp [sameItems]
    | cons b bs =>
      rw [sameItems, Bool.and_eq_true, ih, and_left_comm, List.length_cons, List.length_cons,
        Nat.add_right_cancel_iff]
      refine and_congr_right' ?_
      refine Iff.trans ?_ Nat.and_forall_add_one
      simp

theorem same_obj_iff {as bs : Members} :
    (obj as).same (obj bs) = true ↔ as.length = bs.length ∧
      ∀ member ∈ as, ∃ value, bs.lookup member.1 = some value ∧ member.2.same value = true := by
  rw [same, Bool.and_eq_true, beq_iff_eq]
  refine and_congr_right' ?_
  induction as with
  | nil => simp [sameMembers]
  | cons member as ih =>
    rw [sameMembers, Bool.and_eq_true, ih, List.forall_mem_cons]
    refine and_congr_left' ?_
    cases bs.lookup member.1 <;> simp

/-- Of two objects of one size, each with every key once, neither has a key of its own if one has
none. -/
theorem keys_subset {as bs : Members} (distinct : (Keyed.keys as).Nodup)
    (size : as.length = bs.length) (inside : Keyed.keys as ⊆ Keyed.keys bs) :
    Keyed.keys bs ⊆ Keyed.keys as := by
  have many : (Keyed.keys bs).length ≤ (Keyed.keys as).length := by
    simp [Keyed.keys, size]
  exact ((List.subperm_of_subset distinct inside).perm_of_length_le many).symm.subset

theorem same_symm {a b : Json} (left : a.Distinct) (right : b.Distinct)
    (same : a.same b = true) : b.same a = true := by
  induction left generalizing b with
  | null | bool | str => cases b <;> simp_all [Json.same]
  | num =>
    cases b with
    | num => exact Number.same_symm same
    | _ => cases same
  | arr _ ih =>
    cases b with
    | arr bs =>
      obtain ⟨size, items⟩ := same_arr_iff.mp same
      refine same_arr_iff.mpr ⟨size.symm, fun i b found => ?_⟩
      obtain ⟨here, rfl⟩ := List.getElem?_eq_some_iff.mp found
      have there := List.getElem?_eq_getElem (size ▸ here)
      obtain ⟨other, again, same⟩ := items i _ there
      cases found.symm.trans again
      have member := List.mem_of_getElem? there
      exact ⟨_, there, ih _ member (right.item (List.mem_of_getElem? found)) same⟩
    | _ => cases same
  | @obj as keys parts ih =>
    cases b with
    | obj bs =>
      obtain ⟨size, members⟩ := same_obj_iff.mp same
      -- Only the keys on the left are looked up. That there are no others on the right follows from
      -- the sizes.
      have inside : Keyed.keys as ⊆ Keyed.keys bs := by
        intro key member
        obtain ⟨entry, listed, rfl⟩ := List.mem_map.mp member
        obtain ⟨value, found, -⟩ := members entry listed
        exact List.mem_map.mpr ⟨_, Keyed.mem_of_lookup found, rfl⟩
      refine same_obj_iff.mpr ⟨size.symm, fun (key, b) member => ?_⟩
      have listed := keys_subset keys size inside (List.mem_map.mpr ⟨_, member, rfl⟩)
      obtain ⟨a, found⟩ := Keyed.exists_lookup listed
      obtain ⟨other, again, same⟩ := members (key, a) (Keyed.mem_of_lookup found)
      cases (Keyed.lookup_of_mem right.keys member).symm.trans again
      exact ⟨a, found, ih _ (Keyed.mem_of_lookup found) (right.member member) same⟩
    | _ => cases same

theorem same_trans {a b c : Json} (distinct : a.Distinct) (first : a.same b = true)
    (second : b.same c = true) : a.same c = true := by
  induction distinct generalizing b c with
  | null | bool | str => cases b <;> cases c <;> simp_all [Json.same]
  | num =>
    cases b with
    | num =>
      cases c with
      | num => exact Number.same_trans first second
      | _ => cases second
    | _ => cases first
  | arr _ ih =>
    cases b with
    | arr bs =>
      cases c with
      | arr cs =>
        obtain ⟨size, items⟩ := same_arr_iff.mp first
        obtain ⟨size', items'⟩ := same_arr_iff.mp second
        refine same_arr_iff.mpr ⟨size.trans size', fun i a here => ?_⟩
        obtain ⟨b, found, same⟩ := items i a here
        obtain ⟨c, found', same'⟩ := items' i b found
        exact ⟨c, found', ih a (List.mem_of_getElem? here) same same'⟩
      | _ => cases second
    | _ => cases first
  | obj _ _ ih =>
    cases b with
    | obj bs =>
      cases c with
      | obj cs =>
        obtain ⟨size, members⟩ := same_obj_iff.mp first
        obtain ⟨size', members'⟩ := same_obj_iff.mp second
        refine same_obj_iff.mpr ⟨size.trans size', fun member here => ?_⟩
        obtain ⟨b, found, same⟩ := members member here
        obtain ⟨c, found', same'⟩ := members' (member.1, b) (Keyed.mem_of_lookup found)
        exact ⟨c, found', ih member here same same'⟩
      | _ => cases second
    | _ => cases first

end Json

end SchemaTypes
