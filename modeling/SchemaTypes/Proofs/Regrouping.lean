import SchemaTypes.Proofs.Occurrences

/-! How records are grouped does not matter: what some of them come to on their own can be merged in
their place. Limits, defaults and base types are each associative, and so is the field that they
make up; for records the fields of each name are told apart. -/
namespace SchemaTypes

/-! ## Limits -/

namespace Constraints

variable {a b c joined : Constraints}

theorem mergeMin_assoc (a b c : Option Nat) :
    mergeMin (mergeMin a b) c = mergeMin a (mergeMin b c) := by
  cases a <;> cases b <;> cases c <;> simp [mergeMin, Nat.max_assoc]

theorem mergeMax_assoc (a b c : Option Nat) :
    mergeMax (mergeMax a b) c = mergeMax a (mergeMax b c) := by
  cases a <;> cases b <;> cases c <;> simp [mergeMax, Nat.min_assoc]

theorem common_assoc {xs ys : List Json} (first : ∀ value ∈ xs, value.Distinct)
    (second : ∀ value ∈ ys, value.Distinct) (zs : List Json) :
    common (common xs ys) zs = common xs (common ys zs) := by
  rw [common, common, common, List.filter_filter]
  refine List.filter_congr fun x left => ?_
  rw [Bool.eq_iff_iff, Bool.and_eq_true]
  simp only [List.any_eq_true, common, List.mem_filter]
  constructor
  · rintro ⟨⟨z, third, same⟩, y, right, same'⟩
    have back := Json.same_symm (first x left) (second y right) same'
    exact ⟨y, ⟨right, z, third, Json.same_trans (second y right) back same⟩, same'⟩
  · rintro ⟨y, ⟨right, z, third, same⟩, same'⟩
    exact ⟨⟨z, third, Json.same_trans (first x left) same' same⟩, y, right, same'⟩

theorem mergeAllowed_assoc {xs ys zs result : Option (List Json)}
    (first : ∀ values ∈ xs, ∀ value ∈ values, value.Distinct)
    (second : ∀ values ∈ ys, ∀ value ∈ values, value.Distinct) :
    (∃ both, mergeAllowed xs ys = .ok both ∧ mergeAllowed both zs = .ok result) ↔
      ∃ both, mergeAllowed ys zs = .ok both ∧ mergeAllowed xs both = .ok result := by
  have left_none (ys : Option (List Json)) : mergeAllowed none ys = .ok ys := by cases ys <;> rfl
  have right_none (xs : Option (List Json)) : mergeAllowed xs none = .ok xs := by cases xs <;> rfl
  cases xs with
  | none => simp [left_none]
  | some xs =>
    cases ys with
    | none => simp [left_none, right_none]
    | some ys =>
      cases zs with
      | none => simp [right_none]
      | some zs =>
        have regroup := common_assoc (first xs rfl) (second ys rfl) zs
        have empties : common (common xs ys) zs ≠ [] → common xs ys ≠ [] ∧ common ys zs ≠ [] := by
          intro some
          refine ⟨fun none => some (by rw [none]; rfl), fun none => some ?_⟩
          rw [regroup, none]
          simp [common]
        constructor
        · rintro ⟨_, former, latter⟩
          obtain ⟨-, rfl⟩ := mergeAllowed_some_iff.mp former
          obtain ⟨found, rfl⟩ := mergeAllowed_some_iff.mp latter
          exact ⟨_, mergeAllowed_some_iff.mpr ⟨(empties found).2, rfl⟩,
            mergeAllowed_some_iff.mpr ⟨regroup ▸ found, congrArg some regroup.symm⟩⟩
        · rintro ⟨_, former, latter⟩
          obtain ⟨-, rfl⟩ := mergeAllowed_some_iff.mp former
          obtain ⟨found, rfl⟩ := mergeAllowed_some_iff.mp latter
          rw [← regroup] at found ⊢
          exact ⟨_, mergeAllowed_some_iff.mpr ⟨(empties found).1, rfl⟩,
            mergeAllowed_some_iff.mpr ⟨found, rfl⟩⟩

/-- The limits of some are within the window of all, however all were grouped. -/
theorem merge_assoc (first : a.Distinct) (second : b.Distinct) :
    (∃ both, a.merge b = .ok both ∧ both.merge c = .ok joined) ↔
      ∃ both, b.merge c = .ok both ∧ a.merge both = .ok joined := by
  simp only [merge_iff]
  constructor
  · rintro ⟨⟨_, _, _⟩, ⟨rfl, rfl, -, former⟩, min, max, window, latter⟩
    obtain ⟨allowed, former, latter⟩ := (mergeAllowed_assoc first second).mp ⟨_, former, latter⟩
    rw [mergeMin_assoc] at min
    rw [mergeMax_assoc] at max
    refine ⟨⟨_, _, allowed⟩, ⟨rfl, rfl, ?_, former⟩, min, max, window, latter⟩
    rw [Window, min, max] at window
    exact (window_of_merged window).2
  · rintro ⟨⟨_, _, _⟩, ⟨rfl, rfl, -, former⟩, min, max, window, latter⟩
    obtain ⟨allowed, former, latter⟩ := (mergeAllowed_assoc first second).mpr ⟨_, former, latter⟩
    rw [← mergeMin_assoc] at min
    rw [← mergeMax_assoc] at max
    refine ⟨⟨_, _, allowed⟩, ⟨rfl, rfl, ?_, former⟩, min, max, window, latter⟩
    rw [Window, min, max] at window
    exact (window_of_merged window).1

end Constraints

/-! ## Defaults -/

namespace FieldDefault

variable {required : Bool} {a b c result : FieldDefault}

theorem fits_assoc {xs ys : Option Json} (first : ∀ x ∈ xs, x.Distinct)
    (second : ∀ y ∈ ys, y.Distinct) (zs : Option Json) :
    Fits xs ys ∧ Fits (xs.or ys) zs ↔ Fits ys zs ∧ Fits xs (ys.or zs) := by
  cases xs with
  | none => simp [Fits]
  | some x =>
    cases ys with
    | none => simp [Fits]
    | some y =>
      simp only [Fits, Option.some_or, Option.mem_some_iff, forall_eq']
      constructor
      · rintro ⟨same, others⟩
        have back := Json.same_symm (first x rfl) (second y rfl) same
        exact ⟨fun z third => Json.same_trans (second y rfl) back (others z third), same⟩
      · rintro ⟨others, same⟩
        exact ⟨same, fun z third => Json.same_trans (first x rfl) same (others z third)⟩

theorem mem_value? {value : Json} (given : value ∈ a.value?) : a = .value value := by
  cases a <;> cases given
  rfl

theorem Distinct.value? (distinct : a.Distinct) : ∀ value ∈ a.value?, value.Distinct :=
  fun value given => distinct value (mem_value? given)

theorem merge_assoc (first : a.Distinct) (second : b.Distinct) (needed needed' : Bool) :
    (∃ both, FieldDefault.merge needed a b = .ok both ∧
        FieldDefault.merge required both c = .ok result) ↔
      ∃ both, FieldDefault.merge needed' b c = .ok both ∧
        FieldDefault.merge required a both = .ok result := by
  have regroup := fits_assoc first.value? second.value? c.value?
  constructor
  · rintro ⟨both, former, latter⟩
    obtain ⟨fits', rfl⟩ := merge_iff.mp latter
    rw [merge_value? former] at fits' ⊢
    obtain ⟨fits, fits'⟩ := regroup.mp ⟨(merge_iff.mp former).1, fits'⟩
    have joined : FieldDefault.merge needed' b c = .ok _ := merge_iff.mpr ⟨fits, rfl⟩
    refine ⟨_, joined, merge_iff.mpr ?_⟩
    rw [merge_value? joined, Option.or_assoc]
    exact ⟨fits', rfl⟩
  · rintro ⟨both, former, latter⟩
    obtain ⟨fits', rfl⟩ := merge_iff.mp latter
    rw [merge_value? former] at fits' ⊢
    obtain ⟨fits, fits'⟩ := regroup.mpr ⟨(merge_iff.mp former).1, fits'⟩
    have joined : FieldDefault.merge needed a b = .ok _ := merge_iff.mpr ⟨fits, rfl⟩
    refine ⟨_, joined, merge_iff.mpr ?_⟩
    rw [merge_value? joined, Option.or_assoc]
    exact ⟨fits', rfl⟩

end FieldDefault

/-! ## Fields -/

namespace Field

variable {a b c merged : Field}

theorem Unambiguous.merge (left : a.Unambiguous) (right : b.Unambiguous)
    (joined : a.merge b = .ok merged) : merged.Unambiguous := by
  obtain ⟨-, -, -, ty, default, limits, -, -⟩ := merge_iff.mp joined
  refine ⟨?_, fun value given => ?_,
    Constraints.merge_distinct left.constraints right.constraints limits⟩
  · rw [ty]
    split
    · exact left.ty.base
    · exact .optional left.ty.base
  · have kept : value ∈ a.default.value?.or b.default.value? := by
      rw [← FieldDefault.merge_value? default, given]
      rfl
    rcases Option.or_eq_some_iff.mp kept with here | ⟨-, there⟩
    · exact left.default value (FieldDefault.mem_value? here)
    · exact right.default value (FieldDefault.mem_value? there)

/-- Fields of one base type are merged once their defaults and limits are. -/
theorem merge_parts {default : FieldDefault} {limits : Constraints}
    (type : a.ty.base.same b.ty.base = true)
    (chosen : FieldDefault.merge (a.required || b.required) a.default b.default = .ok default)
    (limited : a.constraints.merge b.constraints = .ok limits) :
    ∃ both, a.merge b = .ok both ∧ both.default = default ∧ both.constraints = limits := by
  let needed := a.required || b.required
  refine ⟨⟨a.name, if needed then a.ty.base else .optional a.ty.base, needed, default, limits,
    a.title.or b.title, a.description.or b.description⟩, ?_, rfl, rfl⟩
  exact merge_iff.mpr ⟨type, rfl, rfl, rfl, chosen, limited, rfl, rfl⟩

theorem merge_assoc (first : a.Unambiguous) (second : b.Unambiguous) :
    (∃ both, a.merge b = .ok both ∧ both.merge c = .ok merged) ↔
      ∃ both, b.merge c = .ok both ∧ a.merge both = .ok merged := by
  constructor
  · rintro ⟨both, former, latter⟩
    have base := merge_base former
    obtain ⟨type, name, required, -, default, limited, title, description⟩ := merge_iff.mp former
    obtain ⟨type', name', required', ty, default', limited', title', description'⟩ :=
      merge_iff.mp latter
    obtain ⟨_, default, default'⟩ := (FieldDefault.merge_assoc first.default second.default _
      (b.required || c.required)).mp ⟨_, default, default'⟩
    obtain ⟨_, limited, limited'⟩ := (Constraints.merge_assoc first.constraints
      second.constraints).mp ⟨_, limited, limited'⟩
    have back := Ty.same_symm first.ty.base second.ty.base type
    obtain ⟨other, joined, rfl, rfl⟩ :=
      merge_parts (Ty.same_trans second.ty.base back (base ▸ type')) default limited
    refine ⟨other, joined, merge_iff.mpr ?_⟩
    have base' := merge_base joined
    obtain ⟨-, -, needed, -, -, -, heading, text⟩ := merge_iff.mp joined
    rw [required, Bool.or_assoc, ← needed] at required' ty default'
    rw [title, Option.or_assoc, ← heading] at title'
    rw [description, Option.or_assoc, ← text] at description'
    rw [base] at ty
    exact ⟨base' ▸ type, name'.trans name, required', ty, default', limited', title', description'⟩
  · rintro ⟨both, former, latter⟩
    have base := merge_base former
    obtain ⟨type, -, required, -, default, limited, title, description⟩ := merge_iff.mp former
    obtain ⟨type', name, required', ty, default', limited', title', description'⟩ :=
      merge_iff.mp latter
    rw [base] at type'
    obtain ⟨_, default, default'⟩ := (FieldDefault.merge_assoc first.default second.default
      (a.required || b.required) _).mpr ⟨_, default, default'⟩
    obtain ⟨_, limited, limited'⟩ := (Constraints.merge_assoc first.constraints
      second.constraints).mpr ⟨_, limited, limited'⟩
    obtain ⟨other, joined, rfl, rfl⟩ := merge_parts type' default limited
    refine ⟨other, joined, merge_iff.mpr ?_⟩
    have base' := merge_base joined
    obtain ⟨-, name', needed, -, -, -, heading, text⟩ := merge_iff.mp joined
    rw [required, ← Bool.or_assoc, ← needed] at required' ty default'
    rw [title, ← Option.or_assoc, ← heading] at title'
    rw [description, ← Option.or_assoc, ← text] at description'
    rw [← base'] at ty
    exact ⟨base' ▸ Ty.same_trans first.ty.base type' type, name.trans name'.symm, required', ty,
      default', limited', title', description'⟩

theorem Gathers.unambiguous {occurrences : List Field} (gathers : Gathers occurrences merged)
    (clear : ∀ field ∈ occurrences, field.Unambiguous) : merged.Unambiguous := by
  obtain ⟨first, others, rfl, ran⟩ := gathers
  obtain ⟨head, rest⟩ := List.forall_mem_cons.mp clear
  exact Except.foldlM_keeps head
    (fun other member _ _ clear joined => clear.merge (rest other member) joined) ran

/-- Merging fields onto one is merging onto it what they come to. -/
theorem foldlM_merge_assoc {after : List Field} (start : a.Unambiguous)
    (clear : ∀ field ∈ after, field.Unambiguous) (some : after ≠ []) :
    after.foldlM Field.merge a = .ok merged ↔
      ∃ both, Gathers after both ∧ a.merge both = .ok merged := by
  induction after using List.reverseRecOn generalizing merged with
  | nil => exact (some rfl).elim
  | append_singleton before next ih =>
    rw [foldlM_concat, Except.bind_ok_iff]
    by_cases none : before = []
    · subst none
      constructor
      · rintro ⟨_, ended, joined⟩
        cases ended
        exact ⟨next, .single next, joined⟩
      · rintro ⟨both, gathers, joined⟩
        cases gathers.unique (.single next)
        exact ⟨a, rfl, joined⟩
    · obtain ⟨clear, -⟩ := List.forall_mem_append.mp clear
      constructor
      · rintro ⟨middle, ran, last⟩
        obtain ⟨both, gathers, joined⟩ := (ih clear none).mp ran
        obtain ⟨whole, last, joined⟩ :=
          (merge_assoc start (gathers.unambiguous clear)).mp ⟨middle, joined, last⟩
        exact ⟨whole, gathers.concat_iff.mpr last, joined⟩
      · rintro ⟨whole, gathers', joined⟩
        obtain ⟨both, gathers⟩ := gathers'.of_append none
        have last := gathers.concat_iff.mp gathers'
        obtain ⟨middle, joined, last⟩ :=
          (merge_assoc start (gathers.unambiguous clear)).mpr ⟨whole, last, joined⟩
        exact ⟨middle, (ih clear none).mpr ⟨both, gathers, joined⟩, last⟩

/-- Some of the fields of a name can be merged on their own first. -/
theorem gathers_append_iff {before after : List Field}
    (clear : ∀ field ∈ before ++ after, field.Unambiguous) (some : after ≠ []) :
    Gathers (before ++ after) merged ↔
      ∃ both, Gathers after both ∧ Gathers (before ++ [both]) merged := by
  obtain ⟨leading, trailing⟩ := List.forall_mem_append.mp clear
  by_cases none : before = []
  · subst none
    constructor
    · intro gathers
      exact ⟨merged, gathers, .single merged⟩
    · rintro ⟨both, gathers, alone⟩
      exact alone.unique (.single both) ▸ gathers
  · have regroup {start : Field} (gathers : Gathers before start) :
        after.foldlM Field.merge start = .ok merged ↔
          ∃ both, Gathers after both ∧ start.merge both = .ok merged :=
      foldlM_merge_assoc (gathers.unambiguous leading) trailing some
    constructor
    · intro whole
      obtain ⟨start, gathers⟩ := whole.of_append none
      obtain ⟨both, rest, joined⟩ := (regroup gathers).mp (gathers.append_iff.mp whole)
      exact ⟨both, rest, gathers.concat_iff.mpr joined⟩
    · rintro ⟨both, rest, whole⟩
      obtain ⟨start, gathers⟩ := whole.of_append none
      exact gathers.append_iff.mpr ((regroup gathers).mpr ⟨both, rest, gathers.concat_iff.mp whole⟩)

end Field

/-! ## Records -/

namespace Record

variable {before after group fields : List Field} {a b merged : Record}

theorem eraseDups_append_eraseDups (names added : List String) :
    (names ++ added.eraseDups).eraseDups = (names ++ added).eraseDups := by
  induction added using List.reverseRecOn with
  | nil => rfl
  | append_singleton added name ih =>
    rw [← List.append_assoc, eraseDups_concat added, eraseDups_concat (names ++ added), ← ih]
    by_cases known : name ∈ added
    · rw [if_pos known, if_pos (List.mem_append_right _ known)]
    · rw [if_neg known, ← List.append_assoc, eraseDups_concat]
      simp only [List.mem_append, List.mem_eraseDups]

/-- What a name comes to does not change when what some of its fields come to stands in their
place. -/
theorem Gathered.gathers_iff {name : String} {field : Field} (gathered : Gathered after group)
    (clear : ∀ field ∈ before ++ after, field.Unambiguous) :
    Field.Gathers (Field.named (before ++ after) name) field ↔
      Field.Gathers (Field.named (before ++ group) name) field := by
  rw [Field.named_append, Field.named_append]
  by_cases known : name ∈ group.map (·.name)
  · obtain ⟨both, member, rfl⟩ := List.mem_map.mp known
    have gathers := gathered.each both member
    have clear := Field.forall_named both.name clear
    rw [Field.named_append] at clear
    rw [Field.named_of_nodup gathered.distinct member, Field.gathers_append_iff clear ?_]
    · constructor
      · rintro ⟨other, gathers', whole⟩
        exact gathers'.unique gathers ▸ whole
      · intro whole
        exact ⟨both, gathers, whole⟩
    · obtain ⟨_, _, found, -⟩ := gathers
      simp [found]
  · rw [Field.named_eq_nil.mpr known, Field.named_eq_nil.mpr (gathered.mem_names.not.mp known)]

theorem Gathered.regroup (gathered : Gathered after group)
    (clear : ∀ field ∈ before ++ after, field.Unambiguous) :
    Gathered (before ++ after) fields ↔ Gathered (before ++ group) fields := by
  have names : ((before ++ group).map (·.name)).eraseDups =
      ((before ++ after).map (·.name)).eraseDups := by
    rw [List.map_append, gathered.names, eraseDups_append_eraseDups, List.map_append]
  constructor
  · rintro ⟨same, distinct, each⟩
    exact ⟨same.trans names.symm, distinct, fun field member =>
      (gathered.gathers_iff clear).mp (each field member)⟩
  · rintro ⟨same, distinct, each⟩
    exact ⟨same.trans names, distinct, fun field member =>
      (gathered.gathers_iff clear).mpr (each field member)⟩

/-- Fields that can be merged can be merged without those in front of them. -/
theorem Gathered.exists_back (gathered : Gathered (before ++ after) fields)
    (clear : ∀ field ∈ before ++ after, field.Unambiguous) : ∃ group, Gathered after group := by
  cases ran : after.foldlM mergeField [] with
  | ok group => exact ⟨group, foldlM_mergeField_iff.mp ran⟩
  | error conflict =>
    obtain ⟨several, apart⟩ := not_gathers_of_error ran
    have known : conflict.field ∈ (before ++ after).map (·.name) := by
      rw [List.map_append]
      exact List.mem_append_right _ (Field.known_of_several several)
    obtain ⟨field, -, -, gathers⟩ := gathered.exists_of_mem known
    rw [Field.named_append] at gathers
    have clear := Field.forall_named conflict.field clear
    rw [Field.named_append] at clear
    have some : Field.named after conflict.field ≠ [] := List.length_pos_iff.mp (by omega)
    obtain ⟨both, rest, -⟩ := (Field.gathers_append_iff clear some).mp gathers
    exact (apart both rest).elim

theorem findSome?_cons_or {part : Record → Option String} {rest : List Record} :
    (a :: rest).findSome? part = (part a).or (rest.findSome? part) := by
  rw [List.findSome?_cons]
  cases part a <;> rfl

theorem mergeAll_singleton : mergeAll a [b] = a.merge b := (List.foldlM_cons ..).trans (bind_pure _)

theorem merge_iff (names : a.fieldNames.Nodup) :
    a.merge b = .ok merged ↔ Gathered (a.fields ++ b.fields) merged.fields ∧
      merged.title = a.title.or b.title ∧ merged.description = a.description.or b.description := by
  rw [← mergeAll_singleton, mergeAll_iff names]
  simp only [findSome?_cons_or, List.findSome?_nil, Option.or_none, List.flatMap_cons,
    List.flatMap_nil, List.append_nil]

/-- Merging records onto one is merging onto it what they come to. Only the names of the two that
others are merged onto have to be distinct. -/
theorem mergeAll_cons_iff {rest : List Record} (names : a.fieldNames.Nodup)
    (names' : b.fieldNames.Nodup) (clear : ∀ record ∈ a :: b :: rest, record.Unambiguous) :
    mergeAll a (b :: rest) = .ok merged ↔
      ∃ both, mergeAll b rest = .ok both ∧ a.merge both = .ok merged := by
  have clear : ∀ field ∈ a.fields ++ (b :: rest).flatMap (·.fields), field.Unambiguous := by
    rw [← List.flatMap_cons]
    exact List.forall_mem_flatMap.mpr clear
  rw [mergeAll_iff names, List.flatMap_cons]
  simp only [findSome?_cons_or (a := a)]
  constructor
  · rintro ⟨whole, title, description⟩
    obtain ⟨fields, rest⟩ := whole.exists_back clear
    exact ⟨⟨_, _, fields⟩, (mergeAll_iff names').mpr ⟨rest, rfl, rfl⟩,
      (merge_iff names).mpr ⟨(rest.regroup clear).mp whole, title, description⟩⟩
  · rintro ⟨both, former, latter⟩
    obtain ⟨rest, title, description⟩ := (mergeAll_iff names').mp former
    obtain ⟨whole, title', description'⟩ := (merge_iff names).mp latter
    exact ⟨(rest.regroup clear).mpr whole, title ▸ title', description ▸ description'⟩

end Record

end SchemaTypes
