import SchemaTypes.Proofs.Reordering

/-! A record that has been merged adds nothing when it is merged once more, whatever else has been
merged in between. The one way in which it can fail is by limits that leave nothing over on their own,
which are looked at only when they meet others. -/
namespace SchemaTypes

/-- Limits that leave nothing over on their own. -/
def Constraints.Vacant (limits : Constraints) : Prop :=
  (∃ min ∈ limits.minLength, ∃ max ∈ limits.maxLength, max < min) ∨ limits.allowed = some []

/-- The type of a field is wrapped exactly when the field may be absent, and what it falls back to is
in line with that. -/
structure Field.Coherent (field : Field) : Prop where
  wrapped : field.ty = if field.required then field.ty.base else .optional field.ty.base
  default : field.default.Allowed field.required

/-- A value that the one in front of it hides stays hidden when another one comes between. -/
theorem or_absorbed {α : Type} {first second : Option α} (kept : first.or second = first)
    (third : Option α) : (first.or third).or second = first.or third := by
  cases first with
  | none =>
    rw [Option.none_or] at kept
    rw [kept, Option.or_none]
  | some => rfl

/-! ## Limits -/

namespace Constraints

variable {a b c merged : Constraints} {xs ys zs result : Option (List Json)}

theorem mergeMin_self (limit : Option Nat) : mergeMin limit limit = limit := by
  cases limit <;> simp [mergeMin]

theorem mergeMax_self (limit : Option Nat) : mergeMax limit limit = limit := by
  cases limit <;> simp [mergeMax]

theorem mergeMin_right_comm (left right most : Option Nat) :
    mergeMin (mergeMin left right) most = mergeMin (mergeMin left most) right := by
  cases left <;> cases right <;> cases most <;> simp [mergeMin, Nat.max_comm, Nat.max_left_comm]

theorem mergeMax_right_comm (left right most : Option Nat) :
    mergeMax (mergeMax left right) most = mergeMax (mergeMax left most) right := by
  cases left <;> cases right <;> cases most <;> simp [mergeMax, Nat.min_comm, Nat.min_left_comm]

theorem common_self {values : List Json} (distinct : ∀ value ∈ values, value.Distinct) :
    common values values = values :=
  List.filter_eq_self.mpr fun value member =>
    List.any_eq_true.mpr ⟨value, member, Json.same_refl (distinct value member)⟩

theorem common_again (first second : List Json) :
    common (common first second) second = common first second :=
  List.filter_eq_self.mpr fun _ member => (List.mem_filter.mp member).2

theorem common_right_comm (first second third : List Json) :
    common (common first second) third = common (common first third) second := by
  simp only [common, List.filter_filter, Bool.and_comm]

theorem mergeAllowed_none (values : Option (List Json)) : mergeAllowed values none = .ok values := by
  cases values <;> rfl

theorem mergeAllowed_self (distinct : ∀ values ∈ xs, ∀ value ∈ values, value.Distinct)
    (some : xs ≠ some []) : mergeAllowed xs xs = .ok xs := by
  cases xs with
  | none => rfl
  | some values =>
    have same := common_self (distinct values rfl)
    refine mergeAllowed_some_iff.mpr ⟨fun none => some ?_, congrArg _ same⟩
    rw [← same, none]

theorem mergeAllowed_again (distinct : ∀ values ∈ ys, ∀ value ∈ values, value.Distinct)
    (some : ys ≠ some []) (joined : mergeAllowed xs ys = .ok result) :
    mergeAllowed result ys = .ok result := by
  cases ys with
  | none => exact mergeAllowed_none result
  | some values =>
    cases xs with
    | none =>
      cases joined
      exact mergeAllowed_self distinct some
    | some others =>
      obtain ⟨found, rfl⟩ := mergeAllowed_some_iff.mp joined
      have again := common_again others values
      exact mergeAllowed_some_iff.mpr ⟨again.symm ▸ found, congrArg _ again⟩

theorem mergeAllowed_onto (absorbs : mergeAllowed xs ys = .ok xs)
    (joined : mergeAllowed xs zs = .ok result) : mergeAllowed result ys = .ok result := by
  cases ys with
  | none => exact mergeAllowed_none result
  | some values =>
    cases xs with
    | none => cases absorbs
    | some others =>
      obtain ⟨-, same⟩ := mergeAllowed_some_iff.mp absorbs
      cases zs with
      | none =>
        cases joined
        exact absorbs
      | some third =>
        obtain ⟨found, rfl⟩ := mergeAllowed_some_iff.mp joined
        have again : common (common others third) values = common others third := by
          rw [common_right_comm, Option.some.inj same]
        exact mergeAllowed_some_iff.mpr ⟨again.symm ▸ found, congrArg _ again⟩

theorem window_of_not_vacant (room : ¬ a.Vacant) : a.Window := by
  intro min lowest max highest
  by_contra less
  exact room (.inl ⟨min, lowest, max, highest, Nat.lt_of_not_le less⟩)

theorem merge_self (distinct : a.Distinct) (room : ¬ a.Vacant) : a.merge a = .ok a :=
  merge_iff.mpr ⟨(mergeMin_self _).symm, (mergeMax_self _).symm, window_of_not_vacant room,
    mergeAllowed_self distinct fun none => room (.inr none)⟩

theorem merge_again (distinct : b.Distinct) (room : ¬ b.Vacant) (joined : a.merge b = .ok merged) :
    merged.merge b = .ok merged := by
  obtain ⟨min, max, window, among⟩ := merge_iff.mp joined
  refine merge_iff.mpr ⟨?_, ?_, window, mergeAllowed_again distinct (room ∘ .inr) among⟩
  · rw [min, mergeMin_assoc, mergeMin_self]
  · rw [max, mergeMax_assoc, mergeMax_self]

theorem merge_onto (absorbs : a.merge b = .ok a) (joined : a.merge c = .ok merged) :
    merged.merge b = .ok merged := by
  obtain ⟨min, max, -, among⟩ := merge_iff.mp absorbs
  obtain ⟨min', max', window, among'⟩ := merge_iff.mp joined
  refine merge_iff.mpr ⟨?_, ?_, window, mergeAllowed_onto among among'⟩
  · rw [min', mergeMin_right_comm, ← min]
  · rw [max', mergeMax_right_comm, ← max]

/-- Limits that leave nothing over cannot be merged with limits of the same kinds. -/
theorem merge_vacant (vacant : b.Vacant) (listed : b.allowed.isSome → a.allowed.isSome) :
    a.merge b ≠ .ok merged := by
  intro joined
  obtain ⟨min, max, window, among⟩ := merge_iff.mp joined
  rcases vacant with ⟨lower, lowest, upper, highest, less⟩ | none
  · rw [Window, min, max] at window
    exact absurd ((window_of_merged window).2 lower lowest upper highest) (by omega)
  · obtain ⟨values, found⟩ := Option.isSome_iff_exists.mp (listed (by rw [none]; rfl))
    rw [found, none] at among
    obtain ⟨some, -⟩ := mergeAllowed_some_iff.mp among
    exact some (by simp [common])

theorem merge_isSome (joined : a.merge b = .ok merged) (listed : b.allowed.isSome) :
    merged.allowed.isSome := by
  obtain ⟨-, -, -, among⟩ := merge_iff.mp joined
  cases first : a.allowed with
  | none =>
    rw [first] at among
    exact Except.ok.inj among ▸ listed
  | some xs =>
    obtain ⟨ys, second⟩ := Option.isSome_iff_exists.mp listed
    rw [first, second] at among
    obtain ⟨-, same⟩ := mergeAllowed_some_iff.mp among
    rw [← same]
    rfl

end Constraints

/-! ## Defaults -/

namespace FieldDefault

variable {a b c merged : FieldDefault} {required needed : Bool}

theorem fits_self {given : Option Json} (distinct : ∀ value ∈ given, value.Distinct) :
    Fits given given := by
  rintro x left y right
  cases Option.mem_unique left right
  exact Json.same_refl (distinct x left)

theorem merge_self (distinct : a.Distinct) (allowed : a.Allowed required) :
    FieldDefault.merge required a a = .ok a := by
  refine merge_iff.mpr ⟨fits_self distinct.value?, ?_⟩
  cases a with
  | value => rfl
  | required =>
    cases allowed
    rfl
  | noValue =>
    cases allowed
    rfl

theorem merge_again (distinct : b.Distinct) (joined : FieldDefault.merge required a b = .ok merged) :
    FieldDefault.merge required merged b = .ok merged := by
  have given := merge_value? joined
  obtain ⟨fits, rfl⟩ := merge_iff.mp joined
  refine merge_iff.mpr ⟨?_, by rw [given, Option.or_assoc, Option.or_self]⟩
  rw [given]
  intro x left y right
  rcases Option.or_eq_some_iff.mp left with first | ⟨-, second⟩
  · exact fits x first y right
  · exact fits_self distinct.value? x second y right

theorem merge_onto (absorbs : FieldDefault.merge needed a b = .ok a)
    (joined : FieldDefault.merge required a c = .ok merged) :
    FieldDefault.merge required merged b = .ok merged := by
  have given := merge_value? joined
  have kept := merge_value? absorbs
  obtain ⟨fits, -⟩ := merge_iff.mp absorbs
  obtain ⟨-, rfl⟩ := merge_iff.mp joined
  rw [merge_iff, given, or_absorbed kept.symm]
  refine ⟨?_, rfl⟩
  -- A second side that gives a value has met one on the first.
  cases first : a.value? with
  | none =>
    rw [first, Option.none_or] at kept
    rw [← kept]
    exact fun _ _ _ absurd => nomatch absurd
  | some value =>
    rw [first] at fits
    exact fits

end FieldDefault

/-! ## Fields -/

namespace Field

variable {a b c merged : Field}

theorem merge_self (coherent : a.Coherent) (clear : a.Unambiguous)
    (room : ¬ a.constraints.Vacant) : a.merge a = .ok a := by
  refine merge_iff.mpr ⟨Ty.same_refl clear.ty.base, rfl, (Bool.or_self _).symm, ?_, ?_,
    Constraints.merge_self clear.constraints room, Option.or_self.symm, Option.or_self.symm⟩
  · rw [Bool.or_self]
    exact coherent.wrapped
  · rw [Bool.or_self]
    exact FieldDefault.merge_self clear.default coherent.default

theorem merge_again (clear : b.Unambiguous) (room : ¬ b.constraints.Vacant)
    (joined : a.merge b = .ok merged) : merged.merge b = .ok merged := by
  have base := merge_base joined
  obtain ⟨type, -, required, ty, default, limits, title, description⟩ := merge_iff.mp joined
  have needed : (merged.required || b.required) = merged.required := by
    rw [required, Bool.or_assoc, Bool.or_self]
  refine merge_iff.mpr ⟨base ▸ type, rfl, needed.symm, ?_, ?_,
    Constraints.merge_again clear.constraints room limits, ?_, ?_⟩
  · rw [needed, base, ty, required]
  · rw [needed, required]
    exact FieldDefault.merge_again clear.default default
  · rw [title, Option.or_assoc, Option.or_self]
  · rw [description, Option.or_assoc, Option.or_self]

/-- What a field has absorbed stays absorbed. -/
theorem merge_onto (absorbs : a.merge b = .ok a) (joined : a.merge c = .ok merged) :
    merged.merge b = .ok merged := by
  have base := merge_base joined
  obtain ⟨type, -, required, -, default, limits, title, description⟩ := merge_iff.mp absorbs
  obtain ⟨-, -, required', ty', default', limits', title', description'⟩ := merge_iff.mp joined
  have needed : (merged.required || b.required) = merged.required := by
    rw [required', Bool.or_right_comm, ← required]
  refine merge_iff.mpr ⟨base ▸ type, rfl, needed.symm, ?_, ?_, Constraints.merge_onto limits limits',
    ?_, ?_⟩
  · rw [needed, base, ty', required']
  · rw [needed, required']
    exact FieldDefault.merge_onto default default'
  · rw [title', or_absorbed title.symm]
  · rw [description', or_absorbed description.symm]

theorem merge_vacant (vacant : b.constraints.Vacant)
    (listed : b.constraints.allowed.isSome → a.constraints.allowed.isSome) :
    a.merge b ≠ .ok merged := fun joined =>
  Constraints.merge_vacant vacant listed (merge_ok joined).2.2

end Field

/-! ## Records -/

namespace Record

variable {fields : List Field} {next : Field} {a b c merged first : Record} {rest : List Record}

/-- Each field of the other record is taken up in the field of its name. -/
structure Absorbs (record other : Record) : Prop where
  fields : ∀ next ∈ other.fields, ∃ field ∈ record.fields,
    field.name = next.name ∧ field.merge next = .ok field
  title : record.title.or other.title = record.title
  description : record.description.or other.description = record.description

theorem mergeField_absorbed (distinct : (fields.map (·.name)).Nodup)
    (taken : ∃ field ∈ fields, field.name = next.name ∧ field.merge next = .ok field) :
    mergeField fields next = .ok fields := by
  obtain ⟨field, member, name, same⟩ := taken
  induction fields with
  | nil => cases member
  | cons head rest ih =>
    rw [List.map_cons, List.nodup_cons] at distinct
    unfold mergeField
    rcases List.mem_cons.mp member with rfl | member
    · rw [if_pos name, same]
    · have differ : head.name ≠ next.name := fun equal =>
        distinct.1 (equal.trans name.symm ▸ List.mem_map_of_mem member)
      rw [if_neg differ, ih distinct.2 member]

theorem Absorbs.merge_eq (names : a.fieldNames.Nodup) (absorbs : a.Absorbs b) :
    a.merge b = .ok a := by
  have kept : b.fields.foldlM mergeField a.fields = .ok a.fields := by
    have taken := absorbs.fields
    generalize b.fields = added at taken
    induction added with
    | nil => rfl
    | cons next rest ih =>
      obtain ⟨here, later⟩ := List.forall_mem_cons.mp taken
      rw [List.foldlM_cons, mergeField_absorbed names here]
      exact ih later
  rw [merge, kept, absorbs.title, absorbs.description]
  cases a
  rfl

theorem merge_names (names : a.fieldNames.Nodup) (joined : a.merge b = .ok merged) :
    merged.fieldNames.Nodup := ((merge_iff names).mp joined).1.distinct

/-- What a record has absorbed stays absorbed when another one is merged onto it. -/
theorem Absorbs.step (names : a.fieldNames.Nodup) (absorbs : a.Absorbs b)
    (joined : a.merge c = .ok merged) : merged.Absorbs b := by
  obtain ⟨gathered, title, description⟩ := (merge_iff names).mp joined
  refine ⟨fun next member => ?_, by rw [title, or_absorbed absorbs.title],
    by rw [description, or_absorbed absorbs.description]⟩
  obtain ⟨field, inside, name, same⟩ := absorbs.fields next member
  have known : field.name ∈ (a.fields ++ c.fields).map (·.name) :=
    List.mem_map_of_mem (List.mem_append_left _ inside)
  obtain ⟨field', inside', name', gathers⟩ := gathered.exists_of_mem known
  refine ⟨field', inside', name'.trans name, ?_⟩
  rw [Field.named_append, Field.named_of_nodup names inside] at gathers
  let taken (field : Field) : Prop := field.merge next = .ok field
  have start : taken field := same
  have kept : taken field' := Except.foldlM_keeps start
    (fun _ _ _ _ absorbed joined => Field.merge_onto absorbed joined)
    ((Field.Gathers.single field).append_iff.mp gathers)
  exact kept

/-- A field of the record merged last is what stands under its name, or what has been merged onto
what stood there. -/
theorem merge_last (names : a.fieldNames.Nodup) (names' : b.fieldNames.Nodup)
    (joined : a.merge b = .ok merged) : ∀ next ∈ b.fields, ∃ field ∈ merged.fields,
      field.name = next.name ∧ (field = next ∨ ∃ before : Field, before.merge next = .ok field) := by
  intro next member
  obtain ⟨gathered, -, -⟩ := (merge_iff names).mp joined
  have known : next.name ∈ (a.fields ++ b.fields).map (·.name) :=
    List.mem_map_of_mem (List.mem_append_right _ member)
  obtain ⟨field, inside, name, gathers⟩ := gathered.exists_of_mem known
  refine ⟨field, inside, name, ?_⟩
  rw [Field.named_append, Field.named_of_nodup names' member] at gathers
  by_cases fresh : Field.named a.fields next.name = []
  · rw [fresh] at gathers
    exact .inl (gathers.unique (.single next))
  · obtain ⟨before, gathered⟩ := gathers.of_append fresh
    exact .inr ⟨before, gathered.concat_iff.mp gathers⟩

/-- A record whose fields are coherent, and whose limits all leave something over, is absorbed where it
is merged. -/
theorem absorbs_merged (names : a.fieldNames.Nodup) (clear : b.Clear)
    (coherent : ∀ field ∈ b.fields, field.Coherent)
    (room : ∀ field ∈ b.fields, ¬ field.constraints.Vacant) (joined : a.merge b = .ok merged) :
    merged.Absorbs b := by
  obtain ⟨-, title, description⟩ := (merge_iff names).mp joined
  refine ⟨fun next member => ?_, by rw [title, Option.or_assoc, Option.or_self],
    by rw [description, Option.or_assoc, Option.or_self]⟩
  obtain ⟨field, inside, name, rfl | ⟨before, onto⟩⟩ := merge_last names clear.names joined next member
  · exact ⟨field, inside, name,
      Field.merge_self (coherent field member) (clear.values field member) (room field member)⟩
  · exact ⟨field, inside, name, Field.merge_again (clear.values next member) (room next member) onto⟩

theorem absorbs_self (clear : b.Clear) (coherent : ∀ field ∈ b.fields, field.Coherent)
    (room : ∀ field ∈ b.fields, ¬ field.constraints.Vacant) : b.Absorbs b where
  fields next member := ⟨next, member, rfl,
    Field.merge_self (coherent next member) (clear.values next member) (room next member)⟩
  title := Option.or_self
  description := Option.or_self

theorem not_merged_of_vacant (names : a.fieldNames.Nodup) (clear : b.Clear) {again : Record}
    (vacant : ∃ field ∈ b.fields, field.constraints.Vacant) (joined : a.merge b = .ok merged) :
    merged.merge b ≠ .ok again := by
  intro joined'
  obtain ⟨next, member, vacant⟩ := vacant
  obtain ⟨field, inside, name, reached⟩ := merge_last names clear.names joined next member
  obtain ⟨gathered, -, -⟩ := (merge_iff (merge_names names joined)).mp joined'
  have known : next.name ∈ (merged.fields ++ b.fields).map (·.name) :=
    List.mem_map_of_mem (List.mem_append_right _ member)
  obtain ⟨field', -, -, gathers⟩ := gathered.exists_of_mem known
  have front : Field.named merged.fields next.name = [field] :=
    name ▸ Field.named_of_nodup (merge_names names joined) inside
  rw [Field.named_append, front, Field.named_of_nodup clear.names member] at gathers
  refine Field.merge_vacant vacant ?_ ((Field.Gathers.single field).concat_iff.mp gathers)
  rcases reached with rfl | ⟨before, onto⟩
  · exact id
  · exact Constraints.merge_isSome (Field.merge_ok onto).2.2

/-! ## Repeated records -/

theorem mergeAll_names (names : first.fieldNames.Nodup)
    (joined : mergeAll first rest = .ok merged) : merged.fieldNames.Nodup :=
  ((mergeAll_iff names).mp joined).1.distinct

/-- A record that is among those merged is absorbed in what they come to. -/
theorem absorbs_of_mem (names : first.fieldNames.Nodup) (clear : b.Clear)
    (coherent : ∀ field ∈ b.fields, field.Coherent)
    (room : ∀ field ∈ b.fields, ¬ field.constraints.Vacant) (member : b ∈ first :: rest)
    (joined : mergeAll first rest = .ok merged) : merged.Absorbs b := by
  have keeps {start : Record} {others : List Record} {last : Record}
      (names : start.fieldNames.Nodup) (absorbs : start.Absorbs b)
      (ran : mergeAll start others = .ok last) : last.Absorbs b := by
    let taken (record : Record) : Prop := record.fieldNames.Nodup ∧ record.Absorbs b
    have start : taken start := ⟨names, absorbs⟩
    have kept : taken last := Except.foldlM_keeps start
      (fun _ _ _ _ known joined => ⟨merge_names known.1 joined, known.2.step known.1 joined⟩) ran
    exact kept.2
  rcases List.mem_cons.mp member with rfl | member
  · exact keeps names (absorbs_self clear coherent room) joined
  · obtain ⟨before, after, rfl⟩ := List.append_of_mem member
    rw [mergeAll, List.foldlM_append] at joined
    obtain ⟨front, ran, joined⟩ := Except.ok_of_bind joined
    rw [List.foldlM_cons] at joined
    obtain ⟨middle, merged, joined⟩ := Except.ok_of_bind joined
    have names := mergeAll_names names ran
    exact keeps (merge_names names merged) (absorbs_merged names clear coherent room merged) joined

/-- A record that has been merged can be left out when it comes up again. -/
theorem mergeAll_repeat (names : first.fieldNames.Nodup) (clear : b.Clear)
    (coherent : ∀ field ∈ b.fields, field.Coherent)
    (room : ∀ field ∈ b.fields, ¬ field.constraints.Vacant) (member : b ∈ first :: rest)
    (after : List Record) : mergeAll first (rest ++ b :: after) = mergeAll first (rest ++ after) := by
  rw [mergeAll, mergeAll, List.foldlM_append, List.foldlM_append]
  cases ran : rest.foldlM merge first with
  | error conflict => rfl
  | ok merged =>
    have absorbs := absorbs_of_mem names clear coherent room member ran
    have same := absorbs.merge_eq (mergeAll_names names ran)
    change (b :: after).foldlM merge merged = after.foldlM merge merged
    rw [List.foldlM_cons, same]
    rfl

/-- What an allOf comes to that reaches some records, through whatever others in between. -/
inductive ComposedOf : List Record → Record → Prop where
  | single (record : Record) : ComposedOf [record] record
  | merge {left right : List Record} {a b merged : Record} : ComposedOf left a →
      ComposedOf right b → a.merge b = .ok merged → ComposedOf (left ++ right) merged

theorem mergeAll_clear (clear : ∀ record ∈ first :: rest, record.Clear)
    (joined : mergeAll first rest = .ok merged) : merged.Clear := by
  obtain ⟨gathered, -, -⟩ := (mergeAll_iff (clear first List.mem_cons_self).names).mp joined
  have values := List.forall_mem_flatMap.mpr fun record member => (clear record member).values
  exact ⟨gathered.distinct, fun field member =>
    (gathered.each field member).unambiguous (Field.forall_named _ values)⟩

theorem ComposedOf.mergeAll {records : List Record} (composed : ComposedOf records merged)
    (clear : ∀ record ∈ records, record.Clear) :
    ∃ first rest, records = first :: rest ∧ Record.mergeAll first rest = .ok merged := by
  induction composed with
  | single record => exact ⟨record, [], rfl, rfl⟩
  | merge _ _ joined left right =>
    obtain ⟨front, back⟩ := List.forall_mem_append.mp clear
    obtain ⟨first, rest, rfl, ran⟩ := left front
    obtain ⟨second, others, rfl, ran'⟩ := right back
    have start := mergeAll_clear front ran
    have whole := (mergeAll_cons_iff start.names (back second List.mem_cons_self).names
      (List.forall_mem_cons.mpr ⟨start.values, fun record member => (back record member).values⟩)).mpr
      ⟨_, ran', joined⟩
    refine ⟨first, rest ++ second :: others, rfl, ?_⟩
    rw [Record.mergeAll] at ran ⊢
    rw [List.foldlM_append, ran]
    exact whole

/-- Members that are composed themselves make an allOf of all that they are composed of. -/
theorem ComposedOf.allOf {front : List Record} {parts : List (List Record)}
    (composed : ComposedOf front first) (members : List.Forall₂ ComposedOf parts rest)
    (joined : Record.mergeAll first rest = .ok merged) : ComposedOf (front ++ parts.flatten) merged := by
  induction members generalizing front first with
  | nil =>
    cases joined
    rwa [List.flatten_nil, List.append_nil]
  | cons member _ ih =>
    rw [Record.mergeAll, List.foldlM_cons] at joined
    obtain ⟨middle, onto, joined⟩ := Except.ok_of_bind joined
    rw [List.flatten_cons, ← List.append_assoc]
    exact ih (composed.merge member onto) joined

theorem composedOf_iff (clear : ∀ record ∈ first :: rest, record.Clear) :
    ComposedOf (first :: rest) merged ↔ mergeAll first rest = .ok merged := by
  constructor
  · intro composed
    obtain ⟨_, _, same, joined⟩ := composed.mergeAll clear
    obtain ⟨rfl, rfl⟩ := List.cons.inj same
    exact joined
  · intro joined
    have alone : List.Forall₂ ComposedOf (rest.map ([·])) rest :=
      List.forall₂_map_left_iff.mpr (List.forall₂_same.mpr fun record _ => .single record)
    have composed := (ComposedOf.single first).allOf alone joined
    rwa [← List.flatMap_def, List.flatMap_singleton'] at composed

/-- Merging a record once more gives the same record, unless some field of it has limits that leave
nothing over on their own: then, and only then, it is a conflict. An allOf that reaches a record of
the first kind again, directly or through others, therefore comes to the same. -/
theorem merge_absorbs (names : a.fieldNames.Nodup) (clear : b.Clear)
    (coherent : ∀ field ∈ b.fields, field.Coherent) (joined : a.merge b = .ok merged) :
    (merged.merge b = .ok merged ↔ ∀ field ∈ b.fields, ¬ field.constraints.Vacant) ∧
      ((∃ conflict, merged.merge b = .error conflict) ↔
        ∃ field ∈ b.fields, field.constraints.Vacant) ∧
      ((∀ field ∈ b.fields, ¬ field.constraints.Vacant) →
        ∀ (before after : List Record) (composed : Record), b ∈ before →
          (∀ record ∈ before ++ after, record.Clear) →
          (ComposedOf (before ++ b :: after) composed ↔ ComposedOf (before ++ after) composed)) := by
  have vacant : (∃ field ∈ b.fields, field.constraints.Vacant) →
      ∃ conflict, merged.merge b = .error conflict := by
    intro vacant
    cases joined' : merged.merge b with
    | error conflict => exact ⟨conflict, rfl⟩
    | ok again => exact (not_merged_of_vacant names clear vacant joined joined').elim
  have room : (∀ field ∈ b.fields, ¬ field.constraints.Vacant) → merged.merge b = .ok merged :=
    fun room => (absorbs_merged names clear coherent room joined).merge_eq (merge_names names joined)
  refine ⟨⟨fun same field member empty => ?_, room⟩, ⟨?_, vacant⟩,
    fun room before after composed member known => ?_⟩
  · obtain ⟨conflict, failed⟩ := vacant ⟨field, member, empty⟩
    exact nomatch same.symm.trans failed
  · rintro ⟨conflict, failed⟩
    by_contra full
    exact nomatch failed.symm.trans (room fun field member empty => full ⟨field, member, empty⟩)
  · obtain ⟨front, back⟩ := List.forall_mem_append.mp known
    obtain ⟨first, rest, rfl⟩ := List.exists_cons_of_ne_nil (List.ne_nil_of_mem member)
    have known : ∀ record ∈ first :: (rest ++ after), record.Clear := known
    have known' : ∀ record ∈ first :: (rest ++ b :: after), record.Clear :=
      List.forall_mem_append.mpr ⟨front, List.forall_mem_cons.mpr ⟨front b member, back⟩⟩
    rw [List.cons_append, List.cons_append, composedOf_iff known', composedOf_iff known,
      mergeAll_repeat (front first List.mem_cons_self).names clear coherent room member]

theorem merge_absorbs_namedText :
    let wide := namedText false ⟨none, some 3, none⟩
    let listed := namedText true ⟨some 1, none, some [.str "a", .str "bb"]⟩
    let empty := namedText true ⟨none, none, some []⟩
    let both := namedText true ⟨some 1, some 3, some [.str "a", .str "bb"]⟩
    both.merge listed = .ok both ∧ ComposedOf [wide, listed, listed] both ∧
      ∃ merged, wide.merge empty = .ok merged ∧ ∃ conflict, merged.merge empty = .error conflict := by
  intro wide listed empty both
  have names : wide.fieldNames.Nodup := List.nodup_singleton _
  have coherent (limits : Constraints) :
      ∀ field ∈ (namedText true limits).fields, field.Coherent :=
    List.forall_mem_singleton.mpr ⟨rfl, rfl⟩
  have joined : wide.merge listed = .ok both := by cbv
  have joined' : wide.merge empty = .ok (namedText true ⟨none, some 3, some []⟩) := by cbv
  have first : wide.Clear := namedText_clear _ (by simp [Constraints.Distinct])
  have second : listed.Clear :=
    namedText_clear _ (by simp [Constraints.Distinct, Json.Distinct.str])
  have third : empty.Clear := namedText_clear _ (by simp [Constraints.Distinct])
  have room : ∀ field ∈ listed.fields, ¬ field.constraints.Vacant :=
    List.forall_mem_singleton.mpr (by simp [Constraints.Vacant])
  obtain ⟨same, -, repeated⟩ := merge_absorbs names second (coherent _) joined
  refine ⟨same.mpr room, ?_, _, joined',
    (merge_absorbs names third (coherent _) joined').2.1.mpr ⟨_, List.mem_singleton.mpr rfl, .inr rfl⟩⟩
  exact (repeated room [wide, listed] [] both (by simp) (by simp [first, second])).mpr
    ((ComposedOf.single wide).merge (.single listed) joined)

end Record

end SchemaTypes
