import SchemaTypes.Proofs.Pointer

/-! Paths into a value and the pointers that write them. The text of a path is a valid pointer, reads
as that path again, and leads to what the path leads to. -/
namespace SchemaTypes

namespace Pointer

/-- In the text of a pointer a tilde stands before `0` or `1` only. -/
inductive Escaped : List Char → Prop where
  | nil : Escaped []
  | tilde {rest : List Char} : Escaped rest → Escaped ('~' :: '0' :: rest)
  | slash {rest : List Char} : Escaped rest → Escaped ('~' :: '1' :: rest)
  | plain {c : Char} {rest : List Char} : c ≠ '~' → Escaped rest → Escaped (c :: rest)

/-- A pointer is empty or starts with a slash, and is escaped. -/
structure Valid (pointer : String) : Prop where
  start : pointer = "" ∨ pointer.toList.head? = some '/'
  escaped : Escaped pointer.toList

theorem Escaped.append {first second : List Char} (before : Escaped first)
    (behind : Escaped second) : Escaped (first ++ second) := by
  induction before with
  | nil => exact behind
  | tilde _ ih => exact .tilde ih
  | slash _ ih => exact .slash ih
  | plain other _ ih => exact .plain other ih

theorem escapeChar_escaped (c : Char) : Escaped (escapeChar c) := by
  unfold escapeChar
  split
  · exact .tilde .nil
  · split
    · exact .slash .nil
    · next other _ => exact .plain other .nil

theorem escape_escaped (segment : String) : Escaped (escape segment).toList := by
  rw [escape, String.toList_ofList]
  induction segment.toList with
  | nil => exact .nil
  | cons c rest ih => exact (escapeChar_escaped c).append ih

variable {first : String} {rest path : List String}

theorem toList_text_cons : (text (first :: rest)).toList =
    '/' :: ((escape first).toList ++ (text rest).toList) := by
  simp [text]

theorem text_valid (path : List String) : Valid (text path) := by
  constructor
  · cases path with
    | nil => exact Or.inl rfl
    | cons first rest => exact Or.inr (by rw [toList_text_cons, List.head?_cons])
  · induction path with
    | nil => exact .nil
    | cons first rest ih =>
      rw [toList_text_cons]
      exact .plain (by decide) ((escape_escaped first).append ih)

/-! ## Reading a path back -/

/-- In front of each segment of a path's text there is a slash, and nothing in front of the
first. -/
theorem split_text (path : List String) :
    split (text path).toList = [] :: path.map fun segment => (escape segment).toList := by
  induction path with
  | nil => rfl
  | cons first rest ih =>
    rw [toList_text_cons, split_cons_slash, split_append_of_slash (escape_no_slash first) ih,
      List.map_cons]

theorem segments_text (path : List String) : segments (text path) = path := by
  have back (segment : String) :
      String.ofList (unescapeChars (escape segment).toList) = segment := unescape_escape segment
  simp only [segments, split_text, List.drop_one, List.tail_cons, List.map_map, Function.comp_def,
    back, List.map_id']

theorem segments_ne_nil {pointer : String} (valid : Valid pointer) (full : pointer ≠ "") :
    segments pointer ≠ [] := by
  obtain ⟨rest, slash⟩ := List.head?_eq_some_iff.mp (valid.start.resolve_left full)
  rw [segments, slash, split_cons_slash]
  simp [split_ne_nil]

/-! ## Indices -/

theorem toDigits_head {n : Nat} (positive : 0 < n) :
    ∃ c rest, Nat.toDigits 10 n = c :: rest ∧ c ≠ '0' := by
  induction n using Nat.strongRecOn with
  | _ n ih =>
    by_cases small : n < 10
    · refine ⟨n.digitChar, [], Nat.toDigits_of_lt_base small, fun zero => ?_⟩
      exact Nat.ne_of_gt positive (Nat.digitChar_eq_zero.mp zero)
    · have large : 10 ≤ n := Nat.le_of_not_lt small
      obtain ⟨c, rest, digits, leading⟩ :=
        ih (n / 10) (Nat.div_lt_self positive (by decide)) (Nat.div_pos large (by decide))
      refine ⟨c, rest ++ [(n % 10).digitChar], ?_, leading⟩
      rw [Nat.toDigits_of_base_le (by decide) large, digits, List.cons_append]

/-- Every number is read as an index by its decimal digits. -/
theorem index?_toString (n : Nat) : index? (toString n) = some n := by
  have digits : (toString n).toList = Nat.toDigits 10 n := Nat.toList_repr
  have numeral : (Nat.toDigits 10 n).all Char.isDigit = true :=
    List.all_eq_true.mpr fun _ member =>
      Nat.isDigit_of_mem_toDigits (by decide) (by decide) member
  have value := Nat.ofDigitChars_toDigits (n := n) (show 1 < 10 by decide) (by decide)
  unfold index?
  rw [digits]
  rcases Nat.eq_zero_or_pos n with rfl | positive
  · rfl
  · obtain ⟨c, rest, same, leading⟩ := toDigits_head positive
    rw [same] at numeral value ⊢
    split
    · contradiction
    · next zero => cases zero; exact (leading rfl).elim
    · next zero => cases zero; exact (leading rfl).elim
    · rw [if_pos numeral, value]

end Pointer

namespace Json

variable {value part : Json} {members : Members} {items : List Json}

theorem at?_append (value : Json) (first second : List String) :
    value.at? (first ++ second) = (value.at? first).bind (·.at? second) :=
  List.foldlM_append

theorem at?_cons (segment : String) (path : List String) :
    value.at? (segment :: path) = (value.child? segment).bind (·.at? path) :=
  List.foldlM_cons

theorem at?_singleton (segment : String) : value.at? [segment] = value.child? segment := by
  rw [at?_cons]
  exact Option.bind_fun_some (value.child? segment)

theorem child?_item {i : Nat} (found : items[i]? = some part) :
    (Json.arr items).child? (toString i) = some part := by
  simp only [child?, Pointer.index?_toString, Option.bind_some, found]

/-- A valid pointer leads where its segments lead. -/
theorem pointer?_of_valid {pointer : String} (valid : Pointer.Valid pointer) (value : Json) :
    value.pointer? pointer = value.at? (Pointer.segments pointer) := by
  unfold pointer?
  split
  · next empty =>
    rw [String.isEmpty_iff.mp empty]
    rfl
  · next full => rw [if_pos (valid.start.resolve_left (mt String.isEmpty_iff.mpr full))]

/-- The text of a path leads where the path leads. -/
theorem pointer?_text (value : Json) (path : List String) :
    value.pointer? (Pointer.text path) = value.at? path := by
  rw [pointer?_of_valid (Pointer.text_valid path), Pointer.segments_text]

/-- A fragment that is not empty leads along its segments. -/
theorem at?_of_pointer? {pointer : String} (full : pointer.isEmpty = false)
    (found : value.pointer? pointer = some part) :
    value.at? (Pointer.segments pointer) = some part := by
  unfold pointer? at found
  rw [full, if_neg Bool.false_ne_true] at found
  split at found
  · exact found
  · cases found

end Json

end SchemaTypes
