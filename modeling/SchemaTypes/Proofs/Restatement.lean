import SchemaTypes.Proofs.WellFormed

/-! What is left of a type once it has been written out as a schema. A field and its type are
written into one object, so a record takes its title and its description from the field that holds
it, and a default is only kept where a constant of the type says it. -/
namespace SchemaTypes

/-- The title that the schema of a type carries. -/
def Ty.title? (ty : Ty) : Option String := ty.record?.bind (·.title)

/-- The description that the schema of a type carries. -/
def Ty.description? (ty : Ty) : Option String := ty.record?.bind (·.description)

/-- A record under another title and description; other types have none. -/
def Ty.entitled (title description : Option String) : Ty → Ty
  | .record r => .record ⟨title, description, r.fields⟩
  | ty => ty

/-- The default of a field whose schema has a type and no default: a literal is its own. -/
def Ty.impliedDefault (required : Bool) : Ty → FieldDefault
  | .leaf (.literal text) => .value (.str text)
  | _ => if required then .required else .noValue

mutual

/-- The type that the schema of a type stands for. -/
def Ty.restated : Ty → Ty
  | .record record => .record record.restated
  | .list item => .list item.restated
  | .set item => .set item.restated
  | .oneOf arms => .oneOf (Ty.restatedArms arms)
  | .optional inner => inner.restated
  | .leaf leaf => .leaf leaf

def Ty.restatedArms : List Ty → List Ty
  | [] => []
  | arm :: rest => arm.restated :: Ty.restatedArms rest

def Record.restated : Record → Record
  | ⟨title, description, fields⟩ => ⟨title, description, Record.restatedFields fields⟩

def Record.restatedFields : List Field → List Field
  | [] => []
  | field :: rest => field.restated :: Record.restatedFields rest

def Field.restated : Field → Field
  | ⟨name, ty, required, _, constraints, title, description⟩ =>
    let title := title.or ty.base.title?
    let description := description.or ty.base.description?
    let base := ty.restated.entitled title description
    ⟨name, if required then base else base.wrap, required, base.impliedDefault required, constraints,
      title, description⟩

end

mutual

/-- A type without titles, descriptions and defaults. -/
def Ty.stripped : Ty → Ty
  | .record record => .record record.stripped
  | .list item => .list item.stripped
  | .set item => .set item.stripped
  | .oneOf arms => .oneOf (Ty.strippedArms arms)
  | .optional inner => .optional inner.stripped
  | .leaf leaf => .leaf leaf

def Ty.strippedArms : List Ty → List Ty
  | [] => []
  | arm :: rest => arm.stripped :: Ty.strippedArms rest

def Record.stripped : Record → Record
  | ⟨_, _, fields⟩ => ⟨none, none, Record.strippedFields fields⟩

def Record.strippedFields : List Field → List Field
  | [] => []
  | field :: rest => field.stripped :: Record.strippedFields rest

def Field.stripped : Field → Field
  | ⟨name, ty, required, _, constraints, _, _⟩ =>
    ⟨name, ty.stripped, required, .required, constraints, none, none⟩

end

/-- A field that its schema tells all about: a record has the title and the description of the field
that holds it, and the default is the one that goes without saying. -/
structure Field.Explicit (field : Field) : Prop where
  default : field.default = field.ty.base.impliedDefault field.required
  title : ∀ record, field.ty.base = .record record → record.title = field.title
  description : ∀ record, field.ty.base = .record record →
    record.description = field.description

/-- A type that its schema tells all about, at every depth. -/
inductive Ty.Explicit : Ty → Prop where
  | record {record : Record} : (∀ field ∈ record.fields, field.Explicit) →
      (∀ field ∈ record.fields, Explicit field.ty.base) → Explicit (.record record)
  | list {item : Ty} : Explicit item → Explicit (.list item)
  | set {item : Ty} : Explicit item → Explicit (.set item)
  | oneOf {arms : List Ty} : (∀ arm ∈ arms, Explicit arm) → Explicit (.oneOf arms)
  | leaf {leaf : Leaf} : Explicit (.leaf leaf)

@[simp] theorem Ty.restatedArms_eq (arms : List Ty) :
    Ty.restatedArms arms = arms.map Ty.restated := by
  induction arms with
  | nil => rfl
  | cons arm rest ih => rw [Ty.restatedArms, ih, List.map_cons]

@[simp] theorem Record.restatedFields_eq (fields : List Field) :
    Record.restatedFields fields = fields.map Field.restated := by
  induction fields with
  | nil => rfl
  | cons field rest ih => rw [Record.restatedFields, ih, List.map_cons]

@[simp] theorem Ty.strippedArms_eq (arms : List Ty) :
    Ty.strippedArms arms = arms.map Ty.stripped := by
  induction arms with
  | nil => rfl
  | cons arm rest ih => rw [Ty.strippedArms, ih, List.map_cons]

@[simp] theorem Record.strippedFields_eq (fields : List Field) :
    Record.strippedFields fields = fields.map Field.stripped := by
  induction fields with
  | nil => rfl
  | cons field rest ih => rw [Record.strippedFields, ih, List.map_cons]

/-! ## Titles -/

namespace Ty

variable {ty : Ty} {title description : Option String}

@[simp] theorem entitled_self (ty : Ty) : ty.entitled ty.title? ty.description? = ty := by
  cases ty with
  | record record =>
    cases record
    rfl
  | _ => rfl

@[simp] theorem entitled_entitled :
    (ty.entitled title description).entitled title description = ty.entitled title description := by
  cases ty <;> rfl

@[simp] theorem or_title_entitled : title.or (ty.entitled title description).title? = title := by
  cases ty <;> simp [entitled, title?, record?]

@[simp] theorem or_description_entitled :
    description.or (ty.entitled title description).description? = description := by
  cases ty <;> simp [entitled, description?, record?]

@[simp] theorem stripped_entitled : (ty.entitled title description).stripped = ty.stripped := by
  cases ty with
  | record record =>
    cases record
    rfl
  | _ => rfl

theorem WellFormed.entitled (fits : ty.WellFormed) : (ty.entitled title description).WellFormed := by
  cases fits with
  | record names regular inside => exact .record names regular inside
  | list item => exact .list item
  | set item => exact .set item
  | oneOf some arms => exact .oneOf some arms
  | leaf => exact .leaf

theorem WellFormed.restated_entitled (fits : ty.WellFormed) :
    (ty.entitled title description).restated = ty.restated.entitled title description := by
  cases fits with
  | @record record =>
    cases record
    rfl
  | _ => rfl

theorem WellFormed.title?_restated (fits : ty.WellFormed) :
    ty.restated.title? = ty.title? ∧ ty.restated.description? = ty.description? := by
  cases fits with
  | @record record =>
    cases record
    exact ⟨rfl, rfl⟩
  | _ => exact ⟨rfl, rfl⟩

/-- What an optional type shares with its inner type, every type shares with its base. -/
theorem congr_base {α : Type} {f : Ty → α} (passes : ∀ inner, f (.optional inner) = f inner)
    (ty : Ty) : f ty.base = f ty := by
  induction ty using Ty.base.induct with
  | case1 inner ih => exact ih.trans (passes inner).symm
  | case2 ty plain =>
    cases ty with
    | optional inner => exact (plain inner rfl).elim
    | _ => rfl

theorem restated_base (ty : Ty) : ty.base.restated = ty.restated := congr_base (fun _ => rfl) ty

theorem impliedDefault_allowed (required : Bool) (ty : Ty) :
    (ty.impliedDefault required).Allowed required := by
  unfold impliedDefault
  split
  · trivial
  · cases required <;> rfl

end Ty

/-! ## Fields -/

namespace Field

/-- The base type of a restated field. -/
def restatedBase (field : Field) : Ty :=
  field.ty.base.restated.entitled (field.title.or field.ty.base.title?)
    (field.description.or field.ty.base.description?)

theorem restated_eq (field : Field) : field.restated = {
    name := field.name
    ty := if field.required then field.restatedBase else field.restatedBase.wrap
    required := field.required
    default := field.restatedBase.impliedDefault field.required
    constraints := field.constraints
    title := field.title.or field.ty.base.title?
    description := field.description.or field.ty.base.description? } := by
  obtain ⟨name, ty, required, default, constraints, title, description⟩ := field
  simp only [restated, restatedBase, Ty.restated_base]

theorem stripped_eq (field : Field) : field.stripped =
    ⟨field.name, field.ty.stripped, field.required, .required, field.constraints, none, none⟩ := by
  cases field
  rfl

variable {field : Field}

theorem base_restated (fits : field.ty.base.restated.WellFormed) :
    field.restated.ty.base = field.restatedBase := by
  have base : field.restatedBase.WellFormed := fits.entitled
  have unwrapped := Ty.base_of_required field.restatedBase field.required
  rw [base.base_eq.1] at unwrapped
  rw [restated_eq]
  exact unwrapped

/-- A field whose base is restated to a well-formed type is restated to a well-formed field. -/
theorem Regular.restated (regular : field.Regular) (fits : field.ty.base.restated.WellFormed) :
    field.restated.WellFormed := by
  have base : field.restatedBase.WellFormed := fits.entitled
  refine ⟨⟨?_, ?_, fun set => ?_⟩, ?_⟩
  · rw [base_restated fits, restated_eq, base.base_eq.2]
  · rw [restated_eq]
    exact Ty.impliedDefault_allowed _ _
  · rw [base_restated fits]
    rw [restated_eq] at set
    rcases regular.lengths set with text | text <;>
      simp [restatedBase, text, Ty.restated, Ty.entitled]
  · rw [base_restated fits]
    exact base

/-- Whatever a field is restated to, it is restated to itself. -/
theorem restated_restated (fits : field.ty.base.restated.WellFormed)
    (settled : field.ty.base.restated.restated = field.ty.base.restated) :
    field.restated.restated = field.restated := by
  have base : field.restated.restatedBase = field.restatedBase := by
    unfold restatedBase
    rw [base_restated fits]
    simp only [restated_eq field]
    unfold restatedBase
    rw [fits.restated_entitled, settled]
    simp
  rw [restated_eq field.restated, base, base_restated fits]
  simp only [restated_eq field]
  simp [restatedBase]

theorem Regular.stripped_restated (regular : field.Regular)
    (fits : field.ty.base.restated.WellFormed)
    (same : field.ty.base.restated.stripped = field.ty.base.stripped) :
    field.restated.stripped = field.stripped := by
  have base : field.restatedBase.WellFormed := fits.entitled
  have alike : field.restatedBase.stripped = field.ty.base.stripped := by
    rw [restatedBase, Ty.stripped_entitled, same]
  have ty : field.restated.ty.stripped = field.ty.stripped := by
    rw [regular.wrapped, restated_eq, base.base_eq.2]
    cases field.required <;> simp [Ty.stripped, alike]
  rw [stripped_eq, stripped_eq, ty, restated_eq]

/-- A field that its schema tells all about is restated to itself. -/
theorem Explicit.restated (explicit : field.Explicit) (regular : field.Regular)
    (settled : field.ty.base.restated = field.ty.base) : field.restated = field := by
  have title : field.title.or field.ty.base.title? = field.title := by
    cases same : field.ty.base with
    | record record => simp [Ty.title?, Ty.record?, explicit.title record same]
    | _ => simp [Ty.title?, Ty.record?]
  have description : field.description.or field.ty.base.description? = field.description := by
    cases same : field.ty.base with
    | record record => simp [Ty.description?, Ty.record?, explicit.description record same]
    | _ => simp [Ty.description?, Ty.record?]
  have base : field.restatedBase = field.ty.base := by
    rw [restatedBase, settled, title, description]
    cases same : field.ty.base with
    | record record =>
      rw [← explicit.title record same, ← explicit.description record same]
      exact Ty.entitled_self (.record record)
    | _ => rfl
  rw [restated_eq, base, title, description, field.ty.base_cases.2, ← regular.wrapped,
    ← explicit.default]
  cases field
  rfl

end Field

/-! ## Types -/

namespace Ty

variable {ty : Ty}

theorem restated_record (record : Record) : (Ty.record record).restated =
    .record ⟨record.title, record.description, record.fields.map Field.restated⟩ := by
  cases record
  simp [restated, Record.restated]

theorem stripped_record (record : Record) : (Ty.record record).stripped =
    .record ⟨none, none, record.fields.map Field.stripped⟩ := by
  cases record
  simp [stripped, Record.stripped]

theorem WellFormed.restated (fits : ty.WellFormed) : ty.restated.WellFormed := by
  induction fits with
  | @record record names regular inside ih =>
    have each : ∀ field ∈ record.fields.map Field.restated, field.WellFormed := by
      simpa using fun field member => (regular field member).restated (ih field member)
    rw [restated_record]
    refine Record.wellFormed_iff.mpr ⟨?_, each⟩
    have same : (record.fields.map Field.restated).map (·.name) = record.fieldNames := by
      simp [Record.fieldNames, Field.restated_eq]
    rw [same]
    exact names
  | list _ ih => exact .list ih
  | set _ ih => exact .set ih
  | @oneOf arms some _ ih =>
    rw [Ty.restated, restatedArms_eq]
    exact .oneOf (by simpa using some) (by simpa using ih)
  | leaf => exact .leaf

theorem WellFormed.restated_restated (fits : ty.WellFormed) : ty.restated.restated = ty.restated := by
  induction fits with
  | @record record names regular inside ih =>
    have same : (record.fields.map Field.restated).map Field.restated =
        record.fields.map Field.restated := by
      rw [List.map_map]
      exact List.map_congr_left fun field member =>
        Field.restated_restated (inside field member).restated (ih field member)
    rw [restated_record, restated_record, same]
  | list _ ih => rw [Ty.restated, Ty.restated, ih]
  | set _ ih => rw [Ty.restated, Ty.restated, ih]
  | oneOf _ _ ih => simpa [Ty.restated] using ih
  | leaf => rfl

/-- Restating a type changes nothing but titles, descriptions and defaults. -/
theorem WellFormed.stripped_restated (fits : ty.WellFormed) : ty.restated.stripped = ty.stripped := by
  induction fits with
  | @record record names regular inside ih =>
    have same : (record.fields.map Field.restated).map Field.stripped =
        record.fields.map Field.stripped := by
      rw [List.map_map]
      exact List.map_congr_left fun field member =>
        (regular field member).stripped_restated (inside field member).restated (ih field member)
    rw [restated_record, stripped_record, stripped_record, same]
  | list _ ih => rw [Ty.restated, Ty.stripped, Ty.stripped, ih]
  | set _ ih => rw [Ty.restated, Ty.stripped, Ty.stripped, ih]
  | oneOf _ _ ih => simpa [Ty.restated, Ty.stripped] using ih
  | leaf => rfl

theorem Explicit.restated (explicit : ty.Explicit) (fits : ty.WellFormed) : ty.restated = ty := by
  induction explicit with
  | @record record told _ ih =>
    cases fits with
    | record _ regular inside =>
      have same : record.fields.map Field.restated = record.fields := by
        refine (List.map_congr_left fun field member => ?_).trans (List.map_id _)
        exact (told field member).restated (regular field member)
          (ih field member (inside field member))
      rw [restated_record, same]
      cases record
      rfl
  | list _ ih =>
    cases fits with
    | list item => rw [Ty.restated, ih item]
  | set _ ih =>
    cases fits with
    | set item => rw [Ty.restated, ih item]
  | @oneOf arms _ ih =>
    cases fits with
    | oneOf _ inside =>
      have same : arms.map Ty.restated = arms :=
        (List.map_congr_left fun arm member => ih arm member (inside arm member)).trans
          (List.map_id _)
      rw [Ty.restated, restatedArms_eq, same]
  | leaf => rfl

end Ty

/-! ## Types that are equal to what they are restated to -/

namespace Ty

theorem sameArms_map {arms : List Ty} {f : Ty → Ty} (same : sameArms (arms.map f) arms = true) :
    ∀ arm ∈ arms, (f arm).same arm = true := by
  induction arms with
  | nil => simp
  | cons arm rest ih =>
    rw [List.map_cons, sameArms, Bool.and_eq_true] at same
    exact List.forall_mem_cons.mpr ⟨same.1, ih same.2⟩

theorem sameFields_map {fields : List Field} {f : Field → Field}
    (same : sameFields (fields.map f) fields = true) :
    ∀ field ∈ fields, sameField (f field) field = true := by
  induction fields with
  | nil => simp
  | cons field rest ih =>
    rw [List.map_cons, sameFields, Bool.and_eq_true] at same
    exact List.forall_mem_cons.mpr ⟨same.1, ih same.2⟩

theorem same_record {title description : Option String} {fields : List Field} {record : Record} :
    (Ty.record ⟨title, description, fields⟩).same (.record record) = true ↔
      title = record.title ∧ description = record.description ∧
        sameFields fields record.fields = true := by
  simp [same, sameRecord, and_assoc]

theorem sameField_parts {a b : Field} (same : sameField a b = true) :
    a.ty.same b.ty = true ∧ a.default.same b.default = true ∧ a.title = b.title ∧
      a.description = b.description := by
  cases a
  simp only [sameField, Bool.and_eq_true, beq_iff_eq] at same
  obtain ⟨⟨⟨⟨⟨⟨-, ty⟩, -⟩, default⟩, -⟩, title⟩, description⟩ := same
  exact ⟨ty, default, title, description⟩

theorem impliedDefault_of_same {ty : Ty} {required : Bool} {default : FieldDefault}
    (same : (ty.impliedDefault required).same default = true) :
    default = ty.impliedDefault required := by
  unfold impliedDefault at same ⊢
  split
  · next text =>
    cases default with
    | value value => cases value <;> simp_all [FieldDefault.same, Json.same]
    | _ => cases same
  · cases required <;> cases default <;> simp_all [FieldDefault.same]

theorem WellFormed.impliedDefault_restated {ty : Ty} (fits : ty.WellFormed)
    {title description : Option String} {required : Bool} :
    (ty.restated.entitled title description).impliedDefault required =
      ty.impliedDefault required := by
  cases fits <;> rfl

/-- A record that takes its title from a field has that title already if nothing changes by it. -/
theorem WellFormed.same_of_entitled {ty : Ty} (fits : ty.WellFormed)
    {title description : Option String}
    (same : (ty.restated.entitled title description).same ty = true) :
    ty.restated.same ty = true ∧ ∀ record, ty = .record record →
      record.title = title ∧ record.description = description := by
  cases fits with
  | @record record =>
    rw [restated_record] at same ⊢
    obtain ⟨left, right, fields⟩ := same_record.mp same
    refine ⟨same_record.mpr ⟨rfl, rfl, fields⟩, ?_⟩
    rintro _ ⟨⟩
    exact ⟨left.symm, right.symm⟩
  | _ => exact ⟨same, fun _ other => nomatch other⟩

end Ty

theorem Field.Regular.explicit_of_same {field : Field} (regular : field.Regular)
    (fits : field.ty.base.WellFormed) (same : Ty.sameField field.restated field = true) :
    field.Explicit ∧ field.ty.base.restated.same field.ty.base = true := by
  obtain ⟨ty, default, title, description⟩ := Ty.sameField_parts same
  have base : field.restatedBase.same field.ty.base = true := by
    have plain : field.restatedBase.WellFormed := fits.restated.entitled
    rw [regular.wrapped, restated_eq, plain.base_eq.2] at ty
    revert ty
    cases field.required <;> simp [Ty.same]
  rw [restated_eq] at default title description
  obtain ⟨settled, entitled⟩ := fits.same_of_entitled base
  refine ⟨⟨?_, fun record is => ?_, fun record is => ?_⟩, settled⟩
  · rw [Ty.impliedDefault_of_same default]
    exact fits.impliedDefault_restated
  · exact (entitled record is).1.trans title
  · exact (entitled record is).2.trans description

/-- A type that is not explicit is not equal to what its schema stands for. -/
theorem Ty.WellFormed.explicit_of_same {ty : Ty} (fits : ty.WellFormed)
    (same : ty.restated.same ty = true) : ty.Explicit := by
  induction fits with
  | @record record _ regular inside ih =>
    rw [restated_record] at same
    have fields := sameFields_map (same_record.mp same).2.2
    refine .record (fun field member => ?_) fun field member => ?_
    · exact ((regular field member).explicit_of_same (inside field member) (fields field member)).1
    · exact ih field member
        ((regular field member).explicit_of_same (inside field member) (fields field member)).2
  | list _ ih => exact .list (ih (by simpa [Ty.restated, Ty.same] using same))
  | set _ ih => exact .set (ih (by simpa [Ty.restated, Ty.same] using same))
  | @oneOf arms _ _ ih =>
    have each : sameArms (arms.map Ty.restated) arms = true := by
      simpa [Ty.restated, Ty.same] using same
    exact .oneOf fun arm member => ih arm member (sameArms_map each arm member)
  | leaf => exact .leaf

end SchemaTypes
