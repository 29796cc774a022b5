import SchemaTypes.Proofs.Conjunction

/-! Equality of types compares the values in them, which passes over the order of members. It is an
equivalence all the same, where no value in a type holds a key twice. -/
namespace SchemaTypes

def FieldDefault.Distinct (default : FieldDefault) : Prop :=
  ∀ value, default = .value value → value.Distinct

/-- No value that stands in a type, at any depth, holds a key twice. -/
inductive Ty.Unambiguous : Ty → Prop where
  | record {record : Record} : (∀ field ∈ record.fields, field.default.Distinct) →
      (∀ field ∈ record.fields, field.constraints.Distinct) →
      (∀ field ∈ record.fields, Unambiguous field.ty) → Unambiguous (.record record)
  | list {item : Ty} : Unambiguous item → Unambiguous (.list item)
  | set {item : Ty} : Unambiguous item → Unambiguous (.set item)
  | oneOf {arms : List Ty} : (∀ arm ∈ arms, Unambiguous arm) → Unambiguous (.oneOf arms)
  | optional {inner : Ty} : Unambiguous inner → Unambiguous (.optional inner)
  | leaf {leaf : Leaf} : Unambiguous (.leaf leaf)

structure Field.Unambiguous (field : Field) : Prop where
  ty : field.ty.Unambiguous
  default : field.default.Distinct
  constraints : field.constraints.Distinct

def Record.Unambiguous (record : Record) : Prop := ∀ field ∈ record.fields, field.Unambiguous

theorem Ty.Unambiguous.base {ty : Ty} (clear : ty.Unambiguous) : ty.base.Unambiguous := by
  induction clear with
  | optional _ ih => exact ih
  | record defaults limits types => exact .record defaults limits types
  | list item => exact .list item
  | set item => exact .set item
  | oneOf arms => exact .oneOf arms
  | leaf => exact .leaf

/-! ## Lists item by item -/

section

variable {α : Type} {related : α → α → Prop} {as bs cs : List α}

theorem Forall₂.symm_of (turns : ∀ a ∈ as, ∀ b ∈ bs, related a b → related b a)
    (given : List.Forall₂ related as bs) : List.Forall₂ related bs as := by
  induction given with
  | nil => exact .nil
  | cons head _ ih =>
    refine .cons (turns _ List.mem_cons_self _ List.mem_cons_self head) (ih fun a left b right => ?_)
    exact turns a (List.mem_cons_of_mem _ left) b (List.mem_cons_of_mem _ right)

theorem Forall₂.trans_of (joins : ∀ a ∈ as, ∀ b c, related a b → related b c → related a c)
    (first : List.Forall₂ related as bs) (second : List.Forall₂ related bs cs) :
    List.Forall₂ related as cs := by
  induction first generalizing cs with
  | nil => exact second
  | cons head _ ih =>
    cases second with
    | cons head' rest =>
      exact .cons (joins _ List.mem_cons_self _ _ head head')
        (ih (fun a member => joins a (List.mem_cons_of_mem _ member)) rest)

end

/-! ## Values -/

theorem Number.same_refl (n : Number) : n.same n = true := by
  cases n with
  | int => exact beq_self_eq_true _
  | float x => exact x.same_refl

namespace Json

theorem same_refl {value : Json} (distinct : value.Distinct) : value.same value = true := by
  induction distinct with
  | null => rfl
  | bool | str => exact beq_self_eq_true _
  | num => exact Number.same_refl _
  | arr _ ih =>
    exact same_arr_iff.mpr ⟨rfl, fun i a found => ⟨a, found, ih a (List.mem_of_getElem? found)⟩⟩
  | obj keys _ ih =>
    exact same_obj_iff.mpr ⟨rfl, fun member inside =>
      ⟨member.2, Keyed.lookup_of_mem keys inside, ih member inside⟩⟩

theorem sameItems_iff {as bs : List Json} :
    sameItems as bs = true ↔ List.Forall₂ (fun a b => a.same b = true) as bs := by
  induction as generalizing bs with
  | nil => cases bs <;> simp [sameItems]
  | cons a as ih => cases bs <;> simp [sameItems, ih]

end Json

namespace FieldDefault

variable {a b c : FieldDefault}

theorem same_refl (distinct : a.Distinct) : a.same a = true := by
  cases a with
  | value value => exact Json.same_refl (distinct value rfl)
  | _ => rfl

theorem same_symm (left : a.Distinct) (right : b.Distinct) (same : a.same b = true) :
    b.same a = true := by
  cases a <;> cases b <;> simp_all only [FieldDefault.same, Bool.false_eq_true]
  exact Json.same_symm (left _ rfl) (right _ rfl) same

theorem same_trans (distinct : a.Distinct) (first : a.same b = true) (second : b.same c = true) :
    a.same c = true := by
  cases a <;> cases b <;> cases c <;> simp_all only [FieldDefault.same, Bool.false_eq_true]
  exact Json.same_trans (distinct _ rfl) first second

end FieldDefault

namespace Constraints

variable {a b c : Constraints}

theorem same_iff : a.same b = true ↔ a.minLength = b.minLength ∧ a.maxLength = b.maxLength ∧
    sameAllowed a.allowed b.allowed = true := by
  simp only [same, Bool.and_eq_true, beq_iff_eq, and_assoc]

theorem same_refl (distinct : a.Distinct) : a.same a = true := by
  refine same_iff.mpr ⟨rfl, rfl, ?_⟩
  cases allowed : a.allowed with
  | none => rfl
  | some values =>
    exact Json.sameItems_iff.mpr (List.forall₂_same.mpr fun value member =>
      Json.same_refl (distinct values allowed value member))

theorem same_symm (left : a.Distinct) (right : b.Distinct) (same : a.same b = true) :
    b.same a = true := by
  obtain ⟨min, max, allowed⟩ := same_iff.mp same
  refine same_iff.mpr ⟨min.symm, max.symm, ?_⟩
  cases first : a.allowed <;> cases second : b.allowed <;> rw [first, second] at allowed
  · rfl
  · cases allowed
  · cases allowed
  · exact Json.sameItems_iff.mpr (Forall₂.symm_of (fun a here b there => Json.same_symm
      (left _ first a here) (right _ second b there)) (Json.sameItems_iff.mp allowed))

theorem same_trans (distinct : a.Distinct) (first : a.same b = true) (second : b.same c = true) :
    a.same c = true := by
  obtain ⟨min, max, allowed⟩ := same_iff.mp first
  obtain ⟨min', max', allowed'⟩ := same_iff.mp second
  refine same_iff.mpr ⟨min.trans min', max.trans max', ?_⟩
  cases listed : a.allowed <;> cases listed' : b.allowed <;> rw [listed, listed'] at allowed
  · exact listed' ▸ allowed'
  · cases allowed
  · cases allowed
  · cases listed'' : c.allowed <;> rw [listed', listed''] at allowed'
    · cases allowed'
    · exact Json.sameItems_iff.mpr (Forall₂.trans_of (fun a here b c => Json.same_trans
        (distinct _ listed a here)) (Json.sameItems_iff.mp allowed) (Json.sameItems_iff.mp allowed'))

end Constraints

/-! ## Types -/

namespace Ty

variable {a b c : Ty}

theorem sameArms_iff {as bs : List Ty} :
    sameArms as bs = true ↔ List.Forall₂ (fun a b => a.same b = true) as bs := by
  induction as generalizing bs with
  | nil => cases bs <;> simp [sameArms]
  | cons a as ih => cases bs <;> simp [sameArms, ih]

theorem sameFields_iff {as bs : List Field} :
    sameFields as bs = true ↔ List.Forall₂ (fun a b => sameField a b = true) as bs := by
  induction as generalizing bs with
  | nil => cases bs <;> simp [sameFields]
  | cons a as ih => cases bs <;> simp [sameFields, ih]

theorem sameField_iff {a b : Field} : sameField a b = true ↔
    a.name = b.name ∧ a.ty.same b.ty = true ∧ a.required = b.required ∧
      a.default.same b.default = true ∧ a.constraints.same b.constraints = true ∧
      a.title = b.title ∧ a.description = b.description := by
  cases a
  simp only [sameField, Bool.and_eq_true, beq_iff_eq, and_assoc]

/-- Types that are equal are of one kind, and equal part by part. -/
inductive Alike : Ty → Ty → Prop where
  | record {a b : Record} : a.title = b.title → a.description = b.description →
      List.Forall₂ (fun a b => sameField a b = true) a.fields b.fields → Alike (.record a) (.record b)
  | list {a b : Ty} : a.same b = true → Alike (.list a) (.list b)
  | set {a b : Ty} : a.same b = true → Alike (.set a) (.set b)
  | oneOf {as bs : List Ty} : List.Forall₂ (fun a b => a.same b = true) as bs →
      Alike (.oneOf as) (.oneOf bs)
  | optional {a b : Ty} : a.same b = true → Alike (.optional a) (.optional b)
  | leaf {leaf : Leaf} : Alike (.leaf leaf) (.leaf leaf)

theorem same_iff : a.same b = true ↔ a.Alike b := by
  constructor
  · intro same
    cases a <;> cases b <;> simp only [Ty.same, Bool.false_eq_true] at same
    · next a b =>
      cases a
      simp only [sameRecord, Bool.and_eq_true, beq_iff_eq, and_assoc] at same
      exact .record same.1 same.2.1 (sameFields_iff.mp same.2.2)
    · exact .list same
    · exact .set same
    · exact .oneOf (sameArms_iff.mp same)
    · exact .optional same
    · cases beq_iff_eq.mp same
      exact .leaf
  · rintro (⟨title, description, fields⟩ | same | same | same | same | _)
    · next a b =>
      cases a
      simp only [Ty.same, sameRecord, Bool.and_eq_true, beq_iff_eq, and_assoc]
      exact ⟨title, description, sameFields_iff.mpr fields⟩
    · rwa [Ty.same]
    · rwa [Ty.same]
    · rwa [Ty.same, sameArms_iff]
    · rwa [Ty.same]
    · simp [Ty.same]

theorem same_refl (clear : a.Unambiguous) : a.same a = true := by
  refine same_iff.mpr ?_
  induction clear with
  | record defaults limits _ ih =>
    refine .record rfl rfl (List.forall₂_same.mpr fun field member => ?_)
    exact sameField_iff.mpr ⟨rfl, same_iff.mpr (ih field member), rfl,
      FieldDefault.same_refl (defaults field member),
      Constraints.same_refl (limits field member), rfl, rfl⟩
  | list _ ih => exact .list (same_iff.mpr ih)
  | set _ ih => exact .set (same_iff.mpr ih)
  | oneOf _ ih => exact .oneOf (List.forall₂_same.mpr fun arm member => same_iff.mpr (ih arm member))
  | optional _ ih => exact .optional (same_iff.mpr ih)
  | leaf => exact .leaf

theorem same_symm (left : a.Unambiguous) (right : b.Unambiguous) (same : a.same b = true) :
    b.same a = true := by
  refine same_iff.mpr ?_
  induction left generalizing b with
  | record defaults limits _ ih =>
    obtain ⟨title, description, fields⟩ := same_iff.mp same
    obtain ⟨defaults', limits', types'⟩ := right
    refine .record title.symm description.symm (Forall₂.symm_of ?_ fields)
    intro field here other there same
    obtain ⟨name, ty, required, default, limited, title, description⟩ := sameField_iff.mp same
    exact sameField_iff.mpr ⟨name.symm,
      same_iff.mpr (ih field here (types' other there) ty), required.symm,
      FieldDefault.same_symm (defaults field here) (defaults' other there) default,
      Constraints.same_symm (limits field here) (limits' other there) limited,
      title.symm, description.symm⟩
  | list _ ih =>
    cases same_iff.mp same with
    | list alike =>
      cases right with
      | list item => exact .list (same_iff.mpr (ih item alike))
  | set _ ih =>
    cases same_iff.mp same with
    | set alike =>
      cases right with
      | set item => exact .set (same_iff.mpr (ih item alike))
  | oneOf _ ih =>
    cases same_iff.mp same with
    | oneOf alike =>
      cases right with
      | oneOf arms =>
        exact .oneOf (Forall₂.symm_of (fun arm here other there same =>
          same_iff.mpr (ih arm here (arms other there) same)) alike)
  | optional _ ih =>
    cases same_iff.mp same with
    | optional alike =>
      cases right with
      | optional inner => exact .optional (same_iff.mpr (ih inner alike))
  | leaf =>
    cases same_iff.mp same with
    | leaf => exact .leaf

theorem same_trans (clear : a.Unambiguous) (first : a.same b = true) (second : b.same c = true) :
    a.same c = true := by
  refine same_iff.mpr ?_
  induction clear generalizing b c with
  | record defaults limits _ ih =>
    obtain ⟨title, description, fields⟩ := same_iff.mp first
    obtain ⟨title', description', fields'⟩ := same_iff.mp second
    refine .record (title.trans title') (description.trans description')
      (Forall₂.trans_of ?_ fields fields')
    intro field here _ _ same same'
    obtain ⟨name, ty, required, default, limited, title, description⟩ := sameField_iff.mp same
    obtain ⟨name', ty', required', default', limited', title', description'⟩ :=
      sameField_iff.mp same'
    exact sameField_iff.mpr ⟨name.trans name', same_iff.mpr (ih field here ty ty'),
      required.trans required',
      FieldDefault.same_trans (defaults field here) default default',
      Constraints.same_trans (limits field here) limited limited',
      title.trans title', description.trans description'⟩
  | list _ ih =>
    cases same_iff.mp first with
    | list alike =>
      cases same_iff.mp second with
      | list alike' => exact .list (same_iff.mpr (ih alike alike'))
  | set _ ih =>
    cases same_iff.mp first with
    | set alike =>
      cases same_iff.mp second with
      | set alike' => exact .set (same_iff.mpr (ih alike alike'))
  | oneOf _ ih =>
    cases same_iff.mp first with
    | oneOf alike =>
      cases same_iff.mp second with
      | oneOf alike' =>
        exact .oneOf (Forall₂.trans_of (fun arm here _ _ same same' =>
          same_iff.mpr (ih arm here same same')) alike alike')
  | optional _ ih =>
    cases same_iff.mp first with
    | optional alike =>
      cases same_iff.mp second with
      | optional alike' => exact .optional (same_iff.mpr (ih alike alike'))
  | leaf =>
    cases same_iff.mp first with
    | leaf => exact same_iff.mp second

end Ty

end SchemaTypes
