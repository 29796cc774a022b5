import SchemaTypes.Proofs.Body

/-! Well-formed types: what may stand where in a compiled type, at every depth. Records that are
merged from well-formed ones are well formed, and so is whatever a node is composed of. -/
namespace SchemaTypes

/-- What a field may fall back to. -/
def FieldDefault.Allowed (required : Bool) : FieldDefault → Prop
  | .required => required = true
  | .noValue => required = false
  | .value _ => True

/-- The type of a field is wrapped exactly when the field may be absent, its default is in line with
that, and only text has limits on its length. -/
structure Field.Regular (field : Field) : Prop where
  wrapped : field.ty = if field.required then field.ty.base else .optional field.ty.base
  default : field.default.Allowed field.required
  lengths : field.constraints.minLength.isSome ∨ field.constraints.maxLength.isSome →
    field.ty.base = .leaf .string ∨ field.ty.base = .leaf .uri

/-- No rule lets an optional type stand anywhere but around the type of a field. -/
inductive Ty.WellFormed : Ty → Prop where
  | record {record : Record} : record.fieldNames.Nodup →
      (∀ field ∈ record.fields, field.Regular) →
      (∀ field ∈ record.fields, WellFormed field.ty.base) → WellFormed (.record record)
  | list {item : Ty} : WellFormed item → WellFormed (.list item)
  | set {item : Ty} : WellFormed item → WellFormed (.set item)
  | oneOf {arms : List Ty} : arms ≠ [] → (∀ arm ∈ arms, WellFormed arm) → WellFormed (.oneOf arms)
  | leaf {leaf : Leaf} : WellFormed (.leaf leaf)

def Registry.WellFormed (registry : Registry) : Prop :=
  ∀ entry ∈ registry.entries, entry.2.WellFormed

/-- A field that a well-formed record can hold. -/
def Field.WellFormed (field : Field) : Prop := field.Regular ∧ field.ty.base.WellFormed

def Field.AllWellFormed (fields : List Field) : Prop :=
  (fields.map (·.name)).Nodup ∧ ∀ field ∈ fields, field.WellFormed

def Record.WellFormed (record : Record) : Prop := Field.AllWellFormed record.fields

theorem Record.wellFormed_iff {record : Record} :
    (Ty.record record).WellFormed ↔ record.WellFormed := by
  constructor
  · rintro ⟨names, regular, inside⟩
    exact ⟨names, fun field member => ⟨regular field member, inside field member⟩⟩
  · rintro ⟨names, fields⟩
    exact .record names (fun field member => (fields field member).1)
      fun field member => (fields field member).2

theorem Registry.WellFormed.insert {registry : Registry} (known : registry.WellFormed)
    (name : String) {ty : Ty} (fits : ty.WellFormed) : (registry.insert name ty).WellFormed := by
  intro entry member
  rcases Keyed.mem_insert member with rfl | member
  · exact fits
  · exact known entry member

/-! ## Bases -/

theorem Ty.base_cases (ty : Ty) : ty.base.base = ty.base ∧ ty.base.wrap = .optional ty.base := by
  induction ty using Ty.base.induct with
  | case1 inner ih => simpa only [Ty.base] using ih
  | case2 ty plain =>
    cases ty with
    | optional inner => exact (plain inner rfl).elim
    | _ => exact ⟨rfl, rfl⟩

theorem Ty.WellFormed.base_eq {ty : Ty} (fits : ty.WellFormed) :
    ty.base = ty ∧ ty.wrap = .optional ty := by
  cases fits <;> exact ⟨rfl, rfl⟩

theorem Ty.base_of_required (ty : Ty) (required : Bool) :
    (if required then ty.base else ty.base.wrap).base = ty.base := by
  obtain ⟨base, wrap⟩ := ty.base_cases
  cases required
  · rw [if_neg Bool.false_ne_true, wrap, Ty.base, base]
  · rw [if_pos rfl, base]

/-- Text has the same base as what it is the same as. -/
theorem Ty.text_of_same {left right : Ty} (same : left.same right = true)
    (text : right = .leaf .string ∨ right = .leaf .uri) :
    left = .leaf .string ∨ left = .leaf .uri := by
  rcases text with rfl | rfl <;> cases left <;> simp_all [Ty.same]

/-! ## Merged records -/

/-- What holds at first and is kept by each step of a fold holds at its end. -/
theorem Except.foldlM_keeps {ε α σ : Type} {step : σ → α → Except ε σ} {holds : σ → Prop}
    {items : List α} {first last : σ} (start : holds first)
    (keeps : ∀ item ∈ items, ∀ before after, holds before → step before item = .ok after →
      holds after) (ended : items.foldlM step first = .ok last) : holds last := by
  induction items generalizing first with
  | nil =>
    cases ended
    exact start
  | cons item rest ih =>
    rw [List.foldlM_cons] at ended
    obtain ⟨middle, stepped, ended⟩ := Except.ok_of_bind ended
    have next := keeps item List.mem_cons_self _ _ start stepped
    exact ih next (fun other member => keeps other (List.mem_cons_of_mem _ member)) ended

theorem Except.bind_ok_iff {ε α β : Type} {outcome : Except ε α} {next : α → Except ε β} {b : β} :
    (outcome >>= next) = .ok b ↔ ∃ a, outcome = .ok a ∧ next a = .ok b := by
  constructor
  · exact Except.ok_of_bind
  · rintro ⟨a, rfl, ended⟩
    exact ended

/-- The lower limit does not exceed the upper one. -/
def Constraints.Window (limits : Constraints) : Prop :=
  ∀ min ∈ limits.minLength, ∀ max ∈ limits.maxLength, min ≤ max

theorem Constraints.checkWindow_iff {left right : Option Nat} {done : Unit} :
    checkWindow left right = .ok done ↔ ∀ min ∈ left, ∀ max ∈ right, min ≤ max := by
  cases left <;> cases right <;> simp [checkWindow]

/-- What merging limits gives, and when it does. -/
theorem Constraints.merge_iff {a b joined : Constraints} : a.merge b = .ok joined ↔
    joined.minLength = mergeMin a.minLength b.minLength ∧
      joined.maxLength = mergeMax a.maxLength b.maxLength ∧ joined.Window ∧
      mergeAllowed a.allowed b.allowed = .ok joined.allowed := by
  simp only [merge, Except.bind_ok_iff]
  constructor
  · rintro ⟨_, window, allowed, among, ended⟩
    cases ended
    exact ⟨rfl, rfl, checkWindow_iff.mp window, among⟩
  · obtain ⟨min, max, allowed⟩ := joined
    rintro ⟨rfl, rfl, window, among⟩
    exact ⟨(), checkWindow_iff.mpr window, allowed, among, rfl⟩

theorem Constraints.mergeMin_isSome {a b : Option Nat} (set : (mergeMin a b).isSome) :
    a.isSome ∨ b.isSome := by
  cases a <;> cases b <;> simp_all [mergeMin]

theorem Constraints.mergeMax_isSome {a b : Option Nat} (set : (mergeMax a b).isSome) :
    a.isSome ∨ b.isSome := by
  cases a <;> cases b <;> simp_all [mergeMax]

/-- A length is limited after a merge only if one of the two sides limits it. -/
theorem Constraints.merge_lengths {a b merged : Constraints} (joined : a.merge b = .ok merged)
    (set : merged.minLength.isSome ∨ merged.maxLength.isSome) :
    (a.minLength.isSome ∨ a.maxLength.isSome) ∨ (b.minLength.isSome ∨ b.maxLength.isSome) := by
  obtain ⟨min, max, -, -⟩ := merge_iff.mp joined
  rw [min, max] at set
  rcases set with set | set
  · exact (mergeMin_isSome set).imp Or.inl Or.inl
  · exact (mergeMax_isSome set).imp Or.inr Or.inr

theorem FieldDefault.merge_allowed {required : Bool} {a b merged : FieldDefault}
    (joined : FieldDefault.merge required a b = .ok merged) : merged.Allowed required := by
  unfold FieldDefault.merge at joined
  split at joined
  · split at joined <;> cases joined
    trivial
  · cases joined
    trivial
  · cases joined
    trivial
  · cases joined
    cases required <;> rfl

/-- What merging fields gives, and when it does. -/
theorem Field.merge_iff {a b merged : Field} : a.merge b = .ok merged ↔
    a.ty.base.same b.ty.base = true ∧ merged.name = a.name ∧
      merged.required = (a.required || b.required) ∧
      merged.ty = (if a.required || b.required then a.ty.base else .optional a.ty.base) ∧
      FieldDefault.merge (a.required || b.required) a.default b.default = .ok merged.default ∧
      a.constraints.merge b.constraints = .ok merged.constraints ∧
      merged.title = a.title.or b.title ∧ merged.description = a.description.or b.description := by
  unfold Field.merge
  rw [a.ty.base_cases.2]
  split
  · next differ =>
    constructor
    · rintro ⟨⟩
    · rintro ⟨same, -⟩
      simp [same] at differ
  · next agree =>
    simp only [Except.bind_ok_iff]
    constructor
    · rintro ⟨default, chosen, limits, limited, ended⟩
      cases ended
      exact ⟨by simpa using agree, rfl, rfl, rfl, chosen, limited, rfl, rfl⟩
    · obtain ⟨name, ty, required, default, constraints, title, description⟩ := merged
      rintro ⟨-, rfl, rfl, rfl, chosen, limited, rfl, rfl⟩
      exact ⟨default, chosen, constraints, limited, rfl⟩

theorem Field.merge_base {a b merged : Field} (joined : a.merge b = .ok merged) : merged.ty.base = a.ty.base := by
  obtain ⟨-, -, required, ty, -, -, -, -⟩ := merge_iff.mp joined
  have base := Ty.base_of_required a.ty (a.required || b.required)
  rwa [a.ty.base_cases.2, ← ty] at base

theorem Field.WellFormed.merge {a b merged : Field} (left : a.WellFormed) (right : b.WellFormed)
    (joined : a.merge b = .ok merged) : merged.WellFormed ∧ merged.name = a.name := by
  have base := merge_base joined
  obtain ⟨same, name, required, ty, default, limits, -, -⟩ := merge_iff.mp joined
  refine ⟨⟨⟨?_, ?_, fun set => ?_⟩, base ▸ left.2⟩, name⟩
  · rw [required, base]
    exact ty
  · rw [required]
    exact FieldDefault.merge_allowed default
  · rw [base]
    rcases Constraints.merge_lengths limits set with set | set
    · exact left.1.lengths set
    · exact Ty.text_of_same same (right.1.lengths set)

/-- What merging one field can do: it goes to the end, or is merged into the first of its name. -/
theorem Record.mergeField_ok {fields merged : List Field} {next : Field}
    (joined : Record.mergeField fields next = .ok merged) :
    (next.name ∉ fields.map (·.name) ∧ merged = fields ++ [next]) ∨
    ∃ before field after both, fields = before ++ field :: after ∧
      next.name ∉ before.map (·.name) ∧ field.name = next.name ∧
      field.merge next = .ok both ∧ merged = before ++ both :: after := by
  induction fields generalizing merged with
  | nil =>
    cases joined
    exact .inl ⟨List.not_mem_nil, rfl⟩
  | cons field rest ih =>
    unfold Record.mergeField at joined
    split at joined
    · next same =>
      split at joined <;> cases joined
      next both merges =>
      exact .inr ⟨[], field, rest, both, rfl, List.not_mem_nil, same, merges, rfl⟩
    · next differ =>
      split at joined <;> cases joined
      next tail ended =>
      rcases ih ended with ⟨absent, rfl⟩ | ⟨before, found, after, both, rfl, absent, same, merges, rfl⟩
      · exact .inl ⟨by simp [Ne.symm differ, absent], rfl⟩
      · exact .inr ⟨field :: before, found, after, both, rfl, by simp [Ne.symm differ, absent], same,
          merges, rfl⟩

theorem Record.mergeField_wellFormed {fields merged : List Field} {next : Field}
    (before : ∀ field ∈ fields, field.WellFormed) (added : next.WellFormed)
    (joined : Record.mergeField fields next = .ok merged) :
    (∀ field ∈ merged, field.WellFormed) ∧
      (merged.map (·.name) = fields.map (·.name) ∨
        next.name ∉ fields.map (·.name) ∧
          merged.map (·.name) = fields.map (·.name) ++ [next.name]) := by
  rcases mergeField_ok joined with
    ⟨absent, rfl⟩ | ⟨front, field, rest, both, rfl, -, -, merges, rfl⟩
  · refine ⟨List.forall_mem_append.mpr ⟨before, List.forall_mem_singleton.mpr added⟩, ?_⟩
    exact .inr ⟨absent, List.map_append⟩
  · obtain ⟨earlier, here⟩ := List.forall_mem_append.mp before
    obtain ⟨first, later⟩ := List.forall_mem_cons.mp here
    obtain ⟨fits, name⟩ := first.merge added merges
    refine ⟨List.forall_mem_append.mpr ⟨earlier, List.forall_mem_cons.mpr ⟨fits, later⟩⟩, ?_⟩
    exact .inl (by rw [List.map_append, List.map_append, List.map_cons, List.map_cons, name])

theorem Record.WellFormed.merge {a b merged : Record} (left : a.WellFormed) (right : b.WellFormed)
    (joined : a.merge b = .ok merged) : merged.WellFormed := by
  obtain ⟨fields, ended, joined⟩ := Except.ok_of_bind joined
  cases joined
  have fits : Field.AllWellFormed fields := by
    refine Except.foldlM_keeps left (fun next member before after fit stepped => ?_) ended
    obtain ⟨fits, names⟩ := mergeField_wellFormed fit.2 (right.2 next member) stepped
    refine ⟨?_, fits⟩
    rcases names with same | ⟨absent, more⟩
    · exact same ▸ fit.1
    · rw [more]
      exact fit.1.append (List.nodup_singleton _) (by simpa using absent)
  exact fits

theorem Record.WellFormed.mergeAll {first merged : Record} {rest : List Record}
    (start : first.WellFormed) (others : ∀ record ∈ rest, record.WellFormed)
    (joined : Record.mergeAll first rest = .ok merged) : merged.WellFormed :=
  Except.foldlM_keeps start (fun record member _ _ before joined =>
    before.merge (others record member) joined) joined

/-! ## Composed types -/

namespace Node

theorem limit_isSome {property : Json} {base : Ty} {keyword : String} {length : Option Nat}
    (read : Object.limit base property keyword = .ok length) (set : length.isSome) :
    base = .leaf .string ∨ base = .leaf .uri := by
  unfold Object.limit at read
  split at read
  · next text =>
    cases base with
    | leaf leaf => cases leaf <;> simp_all [Ty.leaf?, Leaf.isStringKind]
    | _ => simp [Ty.leaf?] at text
  · cases read
    cases set

theorem constraints_lengths {property : Json} {base : Ty} {limits : Constraints}
    (read : Object.constraints property base = .ok limits)
    (set : limits.minLength.isSome ∨ limits.maxLength.isSome) :
    base = .leaf .string ∨ base = .leaf .uri := by
  obtain ⟨minLength, shortest, read⟩ := Except.ok_of_bind read
  obtain ⟨maxLength, longest, read⟩ := Except.ok_of_bind read
  obtain ⟨allowed, -, read⟩ := Except.ok_of_bind read
  cases read
  rcases set with set | set
  · exact limit_isSome shortest set
  · exact limit_isSome longest set

theorem isField_wellFormed {required : Option (List String)} {property : String × Json}
    {field : Field} (given : IsField (fun _ ty => ty.WellFormed) required property field) :
    field.WellFormed ∧ field.name = property.1 := by
  obtain ⟨base, limits, fits, read, rfl⟩ := given
  obtain ⟨plain, wrapped⟩ := fits.base_eq
  generalize Object.isRequired required property.1 = needed
  have stripped : (if needed = true then base else base.wrap).base = base := by
    cases needed
    · rw [if_neg Bool.false_ne_true, wrapped, Ty.base, plain]
    · rw [if_pos rfl, plain]
  refine ⟨⟨⟨?_, ?_, fun set => ?_⟩, ?_⟩, rfl⟩
  · simp only [Object.fieldOf, stripped]
    rw [wrapped]
  · simp only [Object.fieldOf]
    split
    · trivial
    · cases needed <;> rfl
  · simp only [Object.fieldOf, stripped]
    exact constraints_lengths read set
  · simp only [Object.fieldOf, stripped]
    exact fits

theorem fields_wellFormed {required : Option (List String)} {properties : Members}
    {fields : List Field} (distinct : (Keyed.keys properties).Nodup)
    (given : List.Forall₂ (IsField (fun _ ty => ty.WellFormed) required) properties fields) :
    Field.AllWellFormed fields := by
  have names : fields.map (·.name) = Keyed.keys properties := by
    induction given with
    | nil => rfl
    | cons head _ ih =>
      rw [List.map_cons, (isField_wellFormed head).2, ih (List.nodup_cons.mp distinct).2]
      rfl
  refine ⟨names ▸ distinct, ?_⟩
  clear names distinct
  induction given with
  | nil => simp
  | cons head _ ih => exact List.forall_mem_cons.mpr ⟨(isField_wellFormed head).1, ih⟩

theorem combinator_ne_nil {members : Members} {keyword : String} {nodes : List Json}
    (found : combinator members keyword = .ok (some nodes)) : nodes ≠ [] := by
  unfold combinator at found
  split at found <;> cases found
  assumption

theorem arms_wellFormed {nodes : List Json} {arms : List Ty}
    (judged : List.Forall₂ (fun (_ : Json) (ty : Ty) => ty.WellFormed) nodes arms) :
    ∀ arm ∈ arms, arm.WellFormed := by
  induction judged with
  | nil => simp
  | cons head _ ih => exact List.forall_mem_cons.mpr ⟨head, ih⟩

theorem records_wellFormed {nodes : List Json} {records : List Record}
    (judged : List.Forall₂ (fun (_ : Json) (record : Record) => (Ty.record record).WellFormed) nodes
      records) : ∀ record ∈ records, record.WellFormed := by
  induction judged with
  | nil => simp
  | cons head _ ih => exact List.forall_mem_cons.mpr ⟨Record.wellFormed_iff.mp head, ih⟩

/-- A node composed of well-formed types is well formed, if no property stands in it twice. -/
theorem Composed.wellFormed {members : Members} {ty : Ty}
    (distinct : ∀ properties, members.get? "properties" = some (.obj properties) →
      (Keyed.keys properties).Nodup)
    (composed : Composed (fun _ ty => ty.WellFormed) members ty) : ty.WellFormed := by
  cases composed with
  | alternatives found judged =>
    refine .oneOf (fun none => ?_) (arms_wellFormed judged)
    subst none
    cases judged
    exact combinator_ne_nil found rfl
  | conjunction _ _ _ judged joined =>
    obtain ⟨first, rest⟩ := List.forall_mem_cons.mp (records_wellFormed judged)
    exact Record.wellFormed_iff.mpr (first.mergeAll rest joined)
  | object _ _ read _ judged =>
    refine Record.wellFormed_iff.mpr (fields_wellFormed ?_ judged)
    rcases properties_ok read with rfl | found
    · exact List.nodup_nil
    · exact distinct _ found
  | array _ _ _ judged =>
    unfold Ty.collection
    split
    · exact .set judged
    · exact .list judged
  | scalar => exact .leaf

end Node

end SchemaTypes
