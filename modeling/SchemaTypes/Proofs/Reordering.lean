import SchemaTypes.Proofs.Regrouping

/-! The order in which records are merged decides only which of two texts is kept, where a field
stands, and in what order the values it is limited to are listed. Whether they can be merged at all
is up to the fields of each name together, which have no order. -/
namespace SchemaTypes

/-- The same values, in whatever order and however often. -/
def Json.SameValues (values others : List Json) : Prop :=
  (∀ value ∈ values, value.Among others) ∧ ∀ value ∈ others, value.Among values

/-- Fields that say the same of a value. -/
structure Field.Alike (field other : Field) : Prop where
  name : field.name = other.name
  ty : field.ty.same other.ty = true
  required : field.required = other.required
  default : field.default.same other.default = true
  minLength : field.constraints.minLength = other.constraints.minLength
  maxLength : field.constraints.maxLength = other.constraints.maxLength
  allowed : Option.Rel Json.SameValues field.constraints.allowed other.constraints.allowed

/-- Records that say the same of each name. -/
structure Record.Alike (record other : Record) : Prop where
  names : record.fieldNames.Perm other.fieldNames
  fields : ∀ field ∈ record.fields, ∀ field' ∈ other.fields,
    field.name = field'.name → field.Alike field'

/-! ## Limits -/

namespace Constraints

variable {numbers numbers' : List Nat} {lists lists' : List (List Json)}

theorem max?_perm (perm : numbers.Perm numbers') : numbers.max? = numbers'.max? := by
  refine Option.ext fun max => ?_
  simp only [List.max?_eq_some_iff, perm.mem_iff]

theorem min?_perm (perm : numbers.Perm numbers') : numbers.min? = numbers'.min? := by
  refine Option.ext fun min => ?_
  simp only [List.min?_eq_some_iff, perm.mem_iff]

/-- A value is among those shared exactly if it is among those of each list. -/
theorem among_shared {result : List Json} {value : Json}
    (distinct : ∀ values ∈ lists, ∀ value ∈ values, value.Distinct) (given : value.Distinct)
    (all : shared lists = some result) :
    value.Among result ↔ ∀ values ∈ lists, value.Among values := by
  cases lists with
  | nil => cases all
  | cons first others =>
    cases all
    simp only [Json.Among, List.mem_filter, List.all_eq_true, List.any_eq_true,
      List.forall_mem_cons]
    constructor
    · rintro ⟨listed, ⟨here, others⟩, same⟩
      refine ⟨⟨listed, here, same⟩, fun values member => ?_⟩
      obtain ⟨other, there, same'⟩ := others values member
      exact ⟨other, there, Json.same_trans given same same'⟩
    · rintro ⟨⟨listed, here, same⟩, others⟩
      have clear := distinct first List.mem_cons_self listed here
      refine ⟨listed, ⟨here, fun values member => ?_⟩, same⟩
      obtain ⟨other, there, same'⟩ := others values member
      exact ⟨other, there, Json.same_trans clear (Json.same_symm given clear same) same'⟩

theorem shared_mem {result : List Json} {value : Json} (all : shared lists = some result)
    (member : value ∈ result) : ∃ values ∈ lists, value ∈ values := by
  cases lists with
  | nil => cases all
  | cons first others =>
    cases all
    exact ⟨first, List.mem_cons_self, List.mem_of_mem_filter member⟩

theorem shared_perm (perm : lists.Perm lists')
    (distinct : ∀ values ∈ lists, ∀ value ∈ values, value.Distinct) :
    Option.Rel Json.SameValues (shared lists) (shared lists') := by
  have covers {lists lists' : List (List Json)} {result result' : List Json}
      (perm : lists.Perm lists') (distinct : ∀ values ∈ lists, ∀ value ∈ values, value.Distinct)
      (all : shared lists = some result) (all' : shared lists' = some result') :
      ∀ value ∈ result, value.Among result' := by
    intro value member
    obtain ⟨values, inside, here⟩ := shared_mem all member
    have clear := distinct values inside value here
    have distinct' : ∀ values ∈ lists', ∀ value ∈ values, value.Distinct :=
      fun values member => distinct values (perm.mem_iff.mpr member)
    refine (among_shared distinct' clear all').mpr fun values member' => ?_
    exact (among_shared distinct clear all).mp ⟨value, member, Json.same_refl clear⟩ values
      (perm.mem_iff.mpr member')
  cases lists with
  | nil =>
    obtain rfl := perm.nil_eq
    exact .none
  | cons first others =>
    cases lists' with
    | nil => exact (List.cons_ne_nil _ _ perm.eq_nil).elim
    | cons first' others' =>
      have distinct' : ∀ values ∈ first' :: others', ∀ value ∈ values, value.Distinct :=
        fun values member => distinct values (perm.mem_iff.mpr member)
      exact .some ⟨covers perm distinct rfl rfl, covers perm.symm distinct' rfl rfl⟩

end Constraints

/-! ## Fields -/

namespace Field

variable {field first first' : Field} {others others' occurrences occurrences' : List Field}

theorem Alike.refl (clear : field.Unambiguous) : field.Alike field where
  name := rfl
  ty := Ty.same_refl clear.ty
  required := rfl
  default := FieldDefault.same_refl clear.default
  minLength := rfl
  maxLength := rfl
  allowed := by
    cases allowed : field.constraints.allowed with
    | none => exact .none
    | some values =>
      have among : ∀ value ∈ values, value.Among values := fun value member =>
        ⟨value, member, Json.same_refl (clear.constraints values allowed value member)⟩
      exact .some ⟨among, among⟩

theorem lists_distinct (clear : ∀ field ∈ occurrences, field.Unambiguous) :
    ∀ values ∈ lists occurrences, ∀ value ∈ values, value.Distinct := by
  intro values member
  obtain ⟨field, inside, listed⟩ := List.mem_filterMap.mp member
  exact (clear field inside).constraints values listed

/-- Whether fields have something in common does not depend on their order. -/
theorem Clash.perm (perm : occurrences.Perm occurrences')
    (clear : ∀ field ∈ occurrences, field.Unambiguous) (clash : Clash occurrences) :
    Clash occurrences' := by
  cases clash with
  | types left right differ => exact .types (perm.mem_iff.mp left) (perm.mem_iff.mp right) differ
  | defaults left right given given' differ =>
    exact .defaults (perm.mem_iff.mp left) (perm.mem_iff.mp right) given given' differ
  | lengths lowest highest less =>
    rw [Constraints.max?_perm (perm.filterMap _)] at lowest
    rw [Constraints.min?_perm (perm.filterMap _)] at highest
    exact .lengths lowest highest less
  | @values first second rest listed none =>
    have turned : (lists occurrences).Perm (lists occurrences') := perm.filterMap _
    have same := Constraints.shared_perm turned (lists_distinct clear)
    have count : 2 ≤ (lists occurrences').length := by
      rw [← turned.length_eq, lists, listed]
      simp
    obtain ⟨first', second', rest', found⟩ := exists_cons_cons count
    refine .values found (shared_eq_nil_iff.mp ?_)
    rw [lists, listed, shared_eq_nil_iff.mpr none, found] at same
    generalize Constraints.shared (first' :: second' :: rest') = result at same ⊢
    obtain ⟨-, covered⟩ | _ := same
    refine congrArg some (List.eq_nil_iff_forall_not_mem.mpr fun value member => ?_)
    obtain ⟨_, absent, -⟩ := covered value member
    exact List.not_mem_nil absent

theorem ofValues_same {given given' : List Json} (perm : given.Perm given')
    (distinct : ∀ value ∈ given, value.Distinct) (one : OneValue given) (required : Bool) :
    (FieldDefault.ofValues required given).same (.ofValues required given') = true := by
  cases given with
  | nil =>
    obtain rfl := perm.nil_eq
    cases required <;> rfl
  | cons x rest =>
    cases given' with
    | nil => exact (List.cons_ne_nil _ _ perm.eq_nil).elim
    | cons y rest' =>
      rcases List.mem_cons.mp (perm.mem_iff.mpr List.mem_cons_self) with rfl | member
      · exact Json.same_refl (distinct y List.mem_cons_self)
      · exact one x rfl y member

/-- Fields of one name come to the same in whatever order. -/
theorem joint_alike (perm : (first :: others).Perm (first' :: others'))
    (clear : ∀ field ∈ first :: others, field.Unambiguous) (agree : Agree first others)
    (name : first.name = first'.name) : (first.joint others).Alike (first'.joint others') := by
  have needed : (first :: others).any (·.required) = (first' :: others').any (·.required) :=
    perm.any_eq
  have base : first.ty.base.same first'.ty.base = true := by
    rcases List.mem_cons.mp (perm.mem_iff.mpr List.mem_cons_self) with rfl | member
    · exact Ty.same_refl (clear _ List.mem_cons_self).ty.base
    · exact agree.types _ member
  have limits := perm.map (·.constraints)
  have given : (values (first :: others)).Perm (values (first' :: others')) := perm.filterMap _
  have turned : (lists (first :: others)).Perm (lists (first' :: others')) := perm.filterMap _
  refine ⟨name, ?_, needed, ?_, ?_, ?_, ?_⟩
  · simp only [joint, needed]
    split
    · exact base
    · rwa [Ty.same]
  · have distinct : ∀ value ∈ values (first :: others), value.Distinct := by
      intro value member
      obtain ⟨field, inside, given⟩ := mem_values.mp member
      exact (clear field inside).default value given
    simp only [joint, needed]
    exact ofValues_same given distinct agree.defaults _
  · exact Constraints.max?_perm (limits.filterMap _)
  · exact Constraints.min?_perm (limits.filterMap _)
  · have shares (fields : List Field) : (Constraints.joint (fields.map (·.constraints))).allowed =
        Constraints.shared (lists fields) := by
      simp only [Constraints.joint, List.filterMap_map]
      rfl
    simp only [joint, shares]
    exact Constraints.shared_perm turned (lists_distinct clear)

theorem Gathers.perm {key : String} (perm : occurrences.Perm occurrences')
    (clear : ∀ field ∈ occurrences, field.Unambiguous)
    (names : ∀ field ∈ occurrences, field.name = key) (gathers : Gathers occurrences field) :
    ∃ field', Gathers occurrences' field' ∧ field.Alike field' := by
  have gathers' := gathers
  obtain ⟨first, others, rfl, ran⟩ := gathers'
  by_cases alone : others = []
  · subst alone
    obtain rfl := perm.singleton_eq
    cases ran
    exact ⟨field, gathers, .refl (clear field List.mem_cons_self)⟩
  · obtain ⟨agree, -, rfl⟩ := (foldlM_merge_iff alone).mp ran
    have clear' : ∀ field ∈ occurrences', field.Unambiguous :=
      fun field member => clear field (perm.mem_iff.mpr member)
    have several : 2 ≤ (first :: others).length := by
      have := List.length_pos_iff.mpr alone
      rw [List.length_cons]
      omega
    have together : ¬ Clash occurrences' := fun clash =>
      gathers.not_clash several clear (clash.perm perm.symm clear')
    obtain ⟨first', second', rest', rfl⟩ := exists_cons_cons (perm.length_eq ▸ several)
    obtain ⟨agree', window⟩ := agree_of_not_clash together
    have ran' := (foldlM_merge_iff (List.cons_ne_nil second' rest')).mpr ⟨agree', window, rfl⟩
    refine ⟨_, ⟨first', second' :: rest', rfl, ran'⟩, joint_alike perm clear agree ?_⟩
    exact (names first List.mem_cons_self).trans
      (names first' (perm.mem_iff.mpr List.mem_cons_self)).symm

end Field

/-! ## Records -/

namespace Record

variable {all all' fields : List Field} {first first' merged : Record} {rest rest' : List Record}

theorem Gathered.perm (perm : all.Perm all') (clear : ∀ field ∈ all, field.Unambiguous)
    (gathered : Gathered all fields) :
    ∃ fields', Gathered all' fields' ∧ (fields.map (·.name)).Perm (fields'.map (·.name)) ∧
      ∀ field ∈ fields, ∀ field' ∈ fields', field.name = field'.name → field.Alike field' := by
  have turn {name : String} {field : Field} (gathers : Field.Gathers (Field.named all name) field) :
      ∃ field', Field.Gathers (Field.named all' name) field' ∧ field.Alike field' :=
    gathers.perm (perm.filter _) (Field.forall_named _ clear)
      fun field member => (Field.mem_named.mp member).2
  have known {name : String} : name ∈ all.map (·.name) ↔ name ∈ all'.map (·.name) :=
    (perm.map _).mem_iff
  cases ran : all'.foldlM mergeField [] with
  | error conflict =>
    obtain ⟨several, apart⟩ := not_gathers_of_error ran
    obtain ⟨field, -, -, gathers⟩ :=
      gathered.exists_of_mem (known.mpr (Field.known_of_several several))
    obtain ⟨field', gathers', -⟩ := turn gathers
    exact (apart field' gathers').elim
  | ok fields' =>
    have gathered' := foldlM_mergeField_iff.mp ran
    refine ⟨fields', gathered', ?_, fun field member field' member' name => ?_⟩
    · refine (List.perm_ext_iff_of_nodup gathered.distinct gathered'.distinct).mpr fun name => ?_
      rw [gathered.mem_names, known, gathered'.mem_names]
    · obtain ⟨other, gathers, alike⟩ := turn (gathered.each field member)
      have same := (name ▸ gathers).unique (gathered'.each field' member')
      exact same ▸ alike

theorem mergeAll_perm (perm : (first :: rest).Perm (first' :: rest'))
    (names : ∀ record ∈ first :: rest, record.fieldNames.Nodup)
    (clear : ∀ record ∈ first :: rest, record.Unambiguous)
    (joined : mergeAll first rest = .ok merged) :
    ∃ merged', mergeAll first' rest' = .ok merged' ∧ merged.Alike merged' := by
  have distinct : first'.fieldNames.Nodup := names first' (perm.mem_iff.mpr List.mem_cons_self)
  obtain ⟨gathered, -, -⟩ := (mergeAll_iff (names first List.mem_cons_self)).mp joined
  obtain ⟨fields', gathered', turned, alike⟩ :=
    gathered.perm (perm.flatMap_right _) (List.forall_mem_flatMap.mpr clear)
  let merged' : Record := ⟨(first' :: rest').findSome? (·.title),
    (first' :: rest').findSome? (·.description), fields'⟩
  exact ⟨merged', (mergeAll_iff distinct).mpr ⟨gathered', rfl, rfl⟩, turned, alike⟩

/-- A record that names a field once and no member of a value in it twice. Whether its fields are
wrapped as they should be, and fall back to what they should, makes no difference here. -/
structure Clear (record : Record) : Prop where
  names : record.fieldNames.Nodup
  values : record.Unambiguous

/-- Neither grouping nor order matters. Three records can be merged from the left exactly if they can
be merged from the right, and to the same record. Records can be merged in one order exactly if they
can be merged in any other, and then to records that say the same of each name. -/
theorem merge_any_order :
    (∀ a b c merged : Record, (∀ record ∈ [a, b, c], record.Clear) →
      ((∃ both, a.merge b = .ok both ∧ both.merge c = .ok merged) ↔
        ∃ both, b.merge c = .ok both ∧ a.merge both = .ok merged)) ∧
    ∀ (first first' : Record) (rest rest' : List Record),
      (first :: rest).Perm (first' :: rest') → (∀ record ∈ first :: rest, record.Clear) →
      ((∃ merged, mergeAll first rest = .ok merged) ↔
        ∃ merged, mergeAll first' rest' = .ok merged) ∧
      ∀ merged merged', mergeAll first rest = .ok merged → mergeAll first' rest' = .ok merged' →
        merged.Alike merged' := by
  constructor
  · intro a b c merged clear
    have names := (clear a List.mem_cons_self).names
    have names' := (clear b (by simp)).names
    have right : mergeAll a [b, c] = .ok merged ↔
        ∃ both, mergeAll b [c] = .ok both ∧ a.merge both = .ok merged :=
      mergeAll_cons_iff names names' fun record member => (clear record member).values
    rw [mergeAll_singleton] at right
    rw [← right, mergeAll, List.foldlM_cons, Except.bind_ok_iff]
    exact exists_congr fun both => and_congr_right' (by rw [← mergeAll_singleton, mergeAll])
  · intro first first' rest rest' perm clear
    have names : ∀ record ∈ first :: rest, record.fieldNames.Nodup :=
      fun record member => (clear record member).names
    have values : ∀ record ∈ first :: rest, record.Unambiguous :=
      fun record member => (clear record member).values
    have names' : ∀ record ∈ first' :: rest', record.fieldNames.Nodup :=
      fun record member => names record (perm.mem_iff.mpr member)
    have values' : ∀ record ∈ first' :: rest', record.Unambiguous :=
      fun record member => values record (perm.mem_iff.mpr member)
    refine ⟨⟨?_, ?_⟩, fun merged merged' joined joined' => ?_⟩
    · rintro ⟨merged, joined⟩
      obtain ⟨merged', joined', -⟩ := mergeAll_perm perm names values joined
      exact ⟨merged', joined'⟩
    · rintro ⟨merged', joined'⟩
      obtain ⟨merged, joined, -⟩ := mergeAll_perm perm.symm names' values' joined'
      exact ⟨merged, joined⟩
    · obtain ⟨other, joined'', alike⟩ := mergeAll_perm perm names values joined
      cases joined'.symm.trans joined''
      exact alike

theorem namedText_clear (required : Bool) {limits : Constraints} (distinct : limits.Distinct) :
    (namedText required limits).Clear :=
  ⟨List.nodup_singleton _, namedText_unambiguous required distinct⟩

theorem merge_any_order_namedText :
    let short := namedText false ⟨none, some 3, some [.str "bb", .str "a"]⟩
    let listed := namedText true ⟨some 1, none, some [.str "a", .str "bb", .str "ccc"]⟩
    let long := namedText false ⟨some 2, none, none⟩
    let merged := namedText true ⟨some 2, some 3, some [.str "bb", .str "a"]⟩
    (∃ both, listed.merge long = .ok both ∧ short.merge both = .ok merged) ∧
      ∃ merged', mergeAll long [listed, short] = .ok merged' ∧ merged.Alike merged' := by
  intro short listed long merged
  have clear : ∀ record ∈ [short, listed, long], record.Clear := by
    simp only [List.forall_mem_cons, List.not_mem_nil, false_implies, implies_true, and_true, short,
      listed, long]
    refine ⟨namedText_clear _ ?_, namedText_clear _ ?_, namedText_clear _ ?_⟩ <;>
      simp [Constraints.Distinct, Json.Distinct.str]
  have joined : mergeAll short [listed, long] = .ok merged := by cbv
  have left : ∃ both, short.merge listed = .ok both ∧ both.merge long = .ok merged :=
    ⟨namedText true ⟨some 1, some 3, some [.str "bb", .str "a"]⟩, by cbv, by cbv⟩
  have turned : [short, listed, long].Perm [long, listed, short] :=
    (List.reverse_perm [short, listed, long]).symm
  obtain ⟨again, alike⟩ := merge_any_order.2 short long [listed, long] [listed, short] turned clear
  obtain ⟨merged', joined'⟩ := again.mp ⟨merged, joined⟩
  exact ⟨(merge_any_order.1 short listed long merged clear).mp left, merged', joined',
    alike merged merged' joined joined'⟩

end Record

end SchemaTypes
