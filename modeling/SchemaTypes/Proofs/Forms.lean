import SchemaTypes.Proofs.TypeEquality
import SchemaTypes.Ty.Form

/-! The JSON form of a type tells the type: forms are equal exactly if the types are, whether equality
looks at the order of members in the values they hold or passes over it. -/
namespace SchemaTypes

/-! ## Objects member by member -/

namespace Json

variable {key : String} {a b : Json} {as bs : Members}

theorem sameMembers_of_absent (absent : key ∉ Keyed.keys as) (b : Json) :
    sameMembers as ((key, b) :: bs) = sameMembers as bs := by
  induction as with
  | nil => rfl
  | cons member as ih =>
    obtain ⟨differ, absent⟩ := not_or.mp (mt List.mem_cons.mpr absent)
    rw [sameMembers, sameMembers, ih absent, Keyed.lookup_cons, if_neg (Ne.symm differ)]

/-- Objects that start with the same key, which the one has nowhere else, are compared there first. -/
theorem same_obj_cons (absent : key ∉ Keyed.keys as) :
    (obj ((key, a) :: as)).same (obj ((key, b) :: bs)) = (a.same b && (obj as).same (obj bs)) := by
  simp only [same, sameMembers, Keyed.lookup_cons, if_true, sameMembers_of_absent absent,
    List.length_cons]
  rw [Bool.and_left_comm]
  congr 2
  exact beq_eq_beq.mpr Nat.succ_inj

@[simp] theorem same_obj_nil : (obj []).same (obj []) = true := rfl

@[simp] theorem same_str (x y : String) : (str x).same (str y) = (x == y) := rfl

@[simp] theorem same_bool (x y : Bool) : (bool x).same (bool y) = (x == y) := rfl

@[simp] theorem same_arr (xs ys : List Json) : (arr xs).same (arr ys) = sameItems xs ys := rfl

/-- Under one tag only the contents are compared. -/
theorem same_content {tag kind : String} (differ : tag ≠ key) :
    (obj [(tag, str kind), (key, a)]).same (obj [(tag, str kind), (key, b)]) = a.same b := by
  simp [same_obj_cons, Keyed.keys, differ]

theorem same_ofNat (x y : Nat) : (ofNat x).same (ofNat y) = (x == y) := by
  simp only [ofNat, same, Number.same]
  exact beq_eq_beq.mpr Int.ofNat_inj

theorem same_null_iff (value : Json) : value.same null = true ↔ value = null := by
  cases value <;> simp [same]

theorem null_same_iff (value : Json) : null.same value = true ↔ value = null := by
  cases value <;> simp [same]

section

variable {α : Type} {encode : α → Json}

/-- Parts that may be absent are compared where both are there; what is there is never null. -/
theorem same_ofOption [BEq α] (exact : ∀ x y, (encode x).same (encode y) = (x == y))
    (filled : ∀ x, encode x ≠ null) (x y : Option α) :
    (ofOption encode x).same (ofOption encode y) = (x == y) := by
  cases x <;> cases y
  case none.none => rfl
  case none.some y => exact Bool.eq_false_iff.mpr (mt (null_same_iff _).mp (filled y))
  case some.none x => exact Bool.eq_false_iff.mpr (mt (same_null_iff _).mp (filled x))
  case some.some x y => exact exact x y

theorem ofOption_injective (injective : Function.Injective encode) (filled : ∀ x, encode x ≠ null) :
    Function.Injective (ofOption encode) := by
  intro x y same
  cases x <;> cases y
  case none.none => rfl
  case none.some y => exact (filled y same.symm).elim
  case some.none x => exact (filled x same).elim
  case some.some x y => exact congrArg some (injective same)

end

/-- Texts that may be absent, such as titles. -/
theorem same_ofOption_str (x y : Option String) :
    (ofOption str x).same (ofOption str y) = (x == y) :=
  same_ofOption same_str nofun x y

theorem ofOption_str_inj {x y : Option String} : ofOption str x = ofOption str y ↔ x = y :=
  (ofOption_injective (fun _ _ => str.inj) nofun).eq_iff

end Json

/-! ## Parts of types -/

theorem Leaf.same_toJson (a b : Leaf) : a.toJson.same b.toJson = (a == b) := by
  rw [Bool.eq_iff_iff]
  cases a <;> cases b <;>
    simp [toJson, Json.same_obj_cons, Keyed.keys]

theorem FieldDefault.same_toJson (a b : FieldDefault) : a.toJson.same b.toJson = a.same b := by
  cases a <;> cases b <;>
    simp [toJson, FieldDefault.same, Json.same_obj_cons, Keyed.keys]

theorem Constraints.same_toJson (a b : Constraints) : a.toJson.same b.toJson = a.same b := by
  have allowed : (Json.ofOption Json.arr a.allowed).same (Json.ofOption Json.arr b.allowed) =
      sameAllowed a.allowed b.allowed := by
    cases a.allowed <;> cases b.allowed <;> rfl
  have lengths := Json.same_ofOption Json.same_ofNat nofun
  simp [toJson, Constraints.same, Json.same_obj_cons, Keyed.keys, lengths, allowed, Bool.and_assoc]

/-! ## Types -/

theorem Record.keys_members (record : Record) :
    Keyed.keys record.members = ["title", "description", "fields"] := by
  cases record
  rfl

namespace Ty

/-- The tag of a type's form. -/
def kind : Ty → String
  | .record _ => "record"
  | .list _ => "list"
  | .set _ => "set"
  | .oneOf _ => "one_of"
  | .optional _ => "optional"
  | .leaf _ => "leaf"

variable {a b : Ty}

theorem toJson_tagged (a : Ty) :
    ∃ parts, a.toJson = .obj (("kind", .str a.kind) :: parts) ∧ "kind" ∉ Keyed.keys parts := by
  cases a with
  | record record => exact ⟨_, rfl, by simp [record.keys_members]⟩
  | _ => exact ⟨_, rfl, by simp [Keyed.keys]⟩

theorem Alike.kind_eq (alike : Alike a b) : a.kind = b.kind := by
  cases alike <;> rfl

/-- Types of different kinds differ, and so do their forms. -/
theorem same_toJson_of_kind_ne (differ : a.kind ≠ b.kind) :
    a.toJson.same b.toJson = a.same b := by
  obtain ⟨parts, form, absent⟩ := a.toJson_tagged
  obtain ⟨parts', form', -⟩ := b.toJson_tagged
  have apart : a.same b = false :=
    Bool.eq_false_iff.mpr fun same => differ (same_iff.mp same).kind_eq
  rw [form, form', Json.same_obj_cons absent, apart, Json.same_str, beq_false_of_ne differ,
    Bool.false_and]

end Ty

/-! ## Equality of forms -/

mutual

theorem Ty.same_toJson (a b : Ty) : a.toJson.same b.toJson = a.same b := by
  cases a with
  | record record =>
    cases b with
    | record other =>
      rw [Ty.toJson, Ty.toJson, Ty.same, Json.same_obj_cons (by simp [record.keys_members]),
        record.same_members other, Json.same_str, beq_self_eq_true, Bool.true_and]
    | _ => exact Ty.same_toJson_of_kind_ne (by simp [Ty.kind])
  | list item =>
    cases b with
    | list other =>
      rw [Ty.toJson, Ty.toJson, Ty.same, Json.same_content (by decide), item.same_toJson other]
    | _ => exact Ty.same_toJson_of_kind_ne (by simp [Ty.kind])
  | set item =>
    cases b with
    | set other =>
      rw [Ty.toJson, Ty.toJson, Ty.same, Json.same_content (by decide), item.same_toJson other]
    | _ => exact Ty.same_toJson_of_kind_ne (by simp [Ty.kind])
  | oneOf arms =>
    cases b with
    | oneOf others =>
      rw [Ty.toJson, Ty.toJson, Ty.same, Json.same_content (by decide), Json.same_arr,
        Ty.sameItems_armsToJson arms others]
    | _ => exact Ty.same_toJson_of_kind_ne (by simp [Ty.kind])
  | optional inner =>
    cases b with
    | optional other =>
      rw [Ty.toJson, Ty.toJson, Ty.same, Json.same_content (by decide), inner.same_toJson other]
    | _ => exact Ty.same_toJson_of_kind_ne (by simp [Ty.kind])
  | leaf leaf =>
    cases b with
    | leaf other =>
      rw [Ty.toJson, Ty.toJson, Ty.same, Json.same_content (by decide), leaf.same_toJson other]
    | _ => exact Ty.same_toJson_of_kind_ne (by simp [Ty.kind])

theorem Ty.sameItems_armsToJson (as bs : List Ty) :
    Json.sameItems (Ty.armsToJson as) (Ty.armsToJson bs) = Ty.sameArms as bs := by
  cases as with
  | nil => cases bs <;> simp [Ty.armsToJson, Json.sameItems, Ty.sameArms]
  | cons a as =>
    cases bs with
    | nil => simp [Ty.armsToJson, Json.sameItems, Ty.sameArms]
    | cons b bs =>
      rw [Ty.armsToJson, Ty.armsToJson, Json.sameItems, Ty.sameArms, a.same_toJson b,
        Ty.sameItems_armsToJson as bs]

theorem Record.same_members (a b : Record) :
    (Json.obj a.members).same (.obj b.members) = Ty.sameRecord a b := by
  obtain ⟨title, description, fields⟩ := a
  obtain ⟨title', description', fields'⟩ := b
  simp [Record.members, Ty.sameRecord, Json.same_obj_cons, Json.same_ofOption_str, Keyed.keys,
    Record.sameItems_fieldsToJson fields fields', Bool.and_assoc]

theorem Record.sameItems_fieldsToJson (as bs : List Field) :
    Json.sameItems (Record.fieldsToJson as) (Record.fieldsToJson bs) = Ty.sameFields as bs := by
  cases as with
  | nil => cases bs <;> simp [Record.fieldsToJson, Json.sameItems, Ty.sameFields]
  | cons a as =>
    cases bs with
    | nil => simp [Record.fieldsToJson, Json.sameItems, Ty.sameFields]
    | cons b bs =>
      rw [Record.fieldsToJson, Record.fieldsToJson, Json.sameItems, Ty.sameFields, a.same_toJson b,
        Record.sameItems_fieldsToJson as bs]

theorem Field.same_toJson (a b : Field) : a.toJson.same b.toJson = Ty.sameField a b := by
  obtain ⟨name, ty, required, default, constraints, title, description⟩ := a
  obtain ⟨name', ty', required', default', constraints', title', description'⟩ := b
  simp [Field.toJson, Ty.sameField, Json.same_obj_cons, Json.same_ofOption_str, Keyed.keys,
    ty.same_toJson ty', default.same_toJson default', constraints.same_toJson constraints',
    Bool.and_assoc]

end

/-! ## Identity of forms -/

theorem Leaf.toJson_inj (a b : Leaf) : a.toJson = b.toJson ↔ a = b := by
  cases a <;> cases b <;> simp [toJson]

theorem FieldDefault.toJson_inj (a b : FieldDefault) : a.toJson = b.toJson ↔ a = b := by
  cases a <;> cases b <;> simp [toJson]

theorem Constraints.toJson_inj (a b : Constraints) : a.toJson = b.toJson ↔ a = b := by
  have ofNat_injective : Function.Injective Json.ofNat := by
    intro x y same
    exact Int.ofNat_inj.mp (Number.int.inj (Json.num.inj same))
  have numbers := Json.ofOption_injective ofNat_injective nofun
  have values := Json.ofOption_injective (fun _ _ => Json.arr.inj) nofun
  cases a
  cases b
  simp [toJson, numbers.eq_iff, values.eq_iff]

/-- Types of different kinds have different tags. -/
theorem Ty.toJson_inj_of_kind_ne {a b : Ty} (differ : a.kind ≠ b.kind) :
    a.toJson = b.toJson ↔ a = b := by
  refine ⟨fun same => ?_, congrArg _⟩
  obtain ⟨parts, form, -⟩ := a.toJson_tagged
  obtain ⟨parts', form', -⟩ := b.toJson_tagged
  rw [form, form', Json.obj.injEq, List.cons.injEq, Prod.mk.injEq, Json.str.injEq] at same
  exact (differ same.1.2).elim

mutual

theorem Ty.toJson_inj (a b : Ty) : a.toJson = b.toJson ↔ a = b := by
  cases a with
  | record record =>
    cases b with
    | record other => simp [Ty.toJson, record.members_inj other]
    | _ => exact Ty.toJson_inj_of_kind_ne (by simp [Ty.kind])
  | list item =>
    cases b with
    | list other => simp [Ty.toJson, item.toJson_inj other]
    | _ => exact Ty.toJson_inj_of_kind_ne (by simp [Ty.kind])
  | set item =>
    cases b with
    | set other => simp [Ty.toJson, item.toJson_inj other]
    | _ => exact Ty.toJson_inj_of_kind_ne (by simp [Ty.kind])
  | oneOf arms =>
    cases b with
    | oneOf others => simp [Ty.toJson, Ty.armsToJson_inj arms others]
    | _ => exact Ty.toJson_inj_of_kind_ne (by simp [Ty.kind])
  | optional inner =>
    cases b with
    | optional other => simp [Ty.toJson, inner.toJson_inj other]
    | _ => exact Ty.toJson_inj_of_kind_ne (by simp [Ty.kind])
  | leaf leaf =>
    cases b with
    | leaf other => simp [Ty.toJson, leaf.toJson_inj other]
    | _ => exact Ty.toJson_inj_of_kind_ne (by simp [Ty.kind])

theorem Ty.armsToJson_inj (as bs : List Ty) : Ty.armsToJson as = Ty.armsToJson bs ↔ as = bs := by
  cases as with
  | nil => cases bs <;> simp [Ty.armsToJson]
  | cons a as =>
    cases bs with
    | nil => simp [Ty.armsToJson]
    | cons b bs => simp [Ty.armsToJson, a.toJson_inj b, Ty.armsToJson_inj as bs]

theorem Record.members_inj (a b : Record) : a.members = b.members ↔ a = b := by
  obtain ⟨title, description, fields⟩ := a
  obtain ⟨title', description', fields'⟩ := b
  simp [Record.members, Json.ofOption_str_inj, Record.fieldsToJson_inj fields fields']

theorem Record.fieldsToJson_inj (as bs : List Field) :
    Record.fieldsToJson as = Record.fieldsToJson bs ↔ as = bs := by
  cases as with
  | nil => cases bs <;> simp [Record.fieldsToJson]
  | cons a as =>
    cases bs with
    | nil => simp [Record.fieldsToJson]
    | cons b bs => simp [Record.fieldsToJson, a.toJson_inj b, Record.fieldsToJson_inj as bs]

theorem Field.toJson_inj (a b : Field) : a.toJson = b.toJson ↔ a = b := by
  obtain ⟨name, ty, required, default, constraints, title, description⟩ := a
  obtain ⟨name', ty', required', default', constraints', title', description'⟩ := b
  simp [Field.toJson, Json.ofOption_str_inj, default.toJson_inj default',
    constraints.toJson_inj constraints', ty.toJson_inj ty']

end

/-- The form of a type loses nothing. Forms are equal exactly if their types are, and identical exactly if
their types are; so a literal is told from every other leaf, a default that is a present null from no
value, and an empty list of allowed values from none. -/
theorem Ty.toJson_lossless :
    (∀ a b : Ty, a.toJson.same b.toJson = true ↔ a.same b = true) ∧
    (∀ a b : Ty, a.toJson = b.toJson ↔ a = b) ∧
    (∀ (text : String) (leaf : Leaf),
      (Ty.leaf (.literal text)).toJson.same (Ty.leaf leaf).toJson = true ↔ leaf = .literal text) ∧
    ∀ a b : Field,
      ({ a with default := .value .null } : Field).toJson.same
          ({ b with default := .noValue } : Field).toJson = false ∧
        ({ a with constraints := { a.constraints with allowed := some [] } } : Field).toJson.same
          ({ b with constraints := { b.constraints with allowed := none } } : Field).toJson = false := by
  refine ⟨fun a b => by rw [a.same_toJson b], Ty.toJson_inj, ?_, ?_⟩
  · intro text leaf
    rw [Ty.same_toJson, Ty.same, beq_iff_eq, eq_comm]
  · intro a b
    rw [Field.same_toJson, Field.same_toJson]
    constructor
    · simp [Ty.sameField, FieldDefault.same]
    · simp [Ty.sameField, Constraints.same, Constraints.sameAllowed]

end SchemaTypes
