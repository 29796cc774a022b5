import SchemaTypes.Proofs.Quiet
import SchemaTypes.Proofs.Restatement
import SchemaTypes.Proofs.Results
import SchemaTypes.Ty.Schema

/-! The schema of a well-formed type compiles, whatever is known and whatever can be loaded: to the
type restated, which is the type itself up to titles, descriptions and defaults. -/
namespace SchemaTypes

/-! ## Members of a schema -/

/-- Among pairs of different keys, a value that is there counts before what the key held. -/
theorem Members.get?_insertSome {pairs : List (String × Option Json)}
    (distinct : (Keyed.keys pairs).Nodup) (members : Members) (key : String) :
    (members.insertSome pairs).get? key = (pairs.lookup key).join.or (members.get? key) := by
  induction pairs generalizing members with
  | nil => rfl
  | cons pair rest ih =>
    obtain ⟨first, value⟩ := pair
    obtain ⟨absent, distinct⟩ := List.nodup_cons.mp distinct
    have unfolded : members.insertSome ((first, value) :: rest) =
        (members.insertSome [(first, value)]).insertSome rest := rfl
    rw [unfolded, ih distinct, Keyed.lookup_cons]
    by_cases same : key = first
    · subst same
      have later : rest.lookup key = none := by
        cases found : rest.lookup key with
        | none => rfl
        | some value => exact (absent (List.mem_map.mpr ⟨_, Keyed.mem_of_lookup found, rfl⟩)).elim
      rw [later, if_pos rfl]
      cases value with
      | none => rfl
      | some value => exact Keyed.lookup_insert_self members key value
    · rw [if_neg same]
      cases value with
      | none => rfl
      | some value =>
        refine congrArg _ ?_
        exact Keyed.lookup_insert_of_ne same members value

namespace Record

/-- What the schema of a record says, keyword by keyword. -/
def entries (record : Record) : List (String × Option Json) := [
  ("title", record.title.map .str),
  ("description", record.description.map .str),
  ("type", some (.str "object")),
  ("properties", some (.obj (Keyed.ofPairs (propertySchemas record.fields)))),
  ("required", requiredList record.fields)]

theorem schema_eq (record : Record) :
    record.schema = .obj (Members.insertSome [] record.entries) := by
  cases record
  rfl

theorem schema_get? (record : Record) (key : String) :
    record.schema.get? key = (record.entries.lookup key).join := by
  have distinct : (Keyed.keys record.entries).Nodup :=
    show List.Nodup ["title", "description", "type", "properties", "required"] by decide
  have found := Members.get?_insertSome distinct [] key
  rw [schema_eq]
  exact found.trans (Option.or_none ..)

end Record

theorem Ty.schema_base (ty : Ty) : ty.base.schema = ty.schema := congr_base (fun _ => rfl) ty

theorem Ty.schema_object (ty : Ty) : ∃ members : Members, ty.schema = .obj members := by
  induction ty using Ty.base.induct with
  | case1 inner ih => exact ih
  | case2 ty plain =>
    cases ty with
    | optional inner => exact (plain inner rfl).elim
    | record record => exact ⟨_, record.schema_eq⟩
    | leaf leaf => cases leaf <;> exact ⟨_, rfl⟩
    | _ => exact ⟨_, rfl⟩

/-- The keywords that the schema of a type can have by itself. -/
def Ty.keywords : List String :=
  ["title", "description", "type", "format", "const", "items", "uniqueItems", "oneOf",
    "properties", "required"]

theorem Ty.WellFormed.schema_get?_none {ty : Ty} (fits : ty.WellFormed) {key : String}
    (other : key ∉ Ty.keywords) : ty.schema.get? key = none := by
  simp only [Ty.keywords, List.mem_cons, List.not_mem_nil, or_false, not_or] at other
  cases fits with
  | @record record =>
    rw [Ty.schema, Record.schema_get?]
    simp [Record.entries, Keyed.lookup_cons, other]
  | @leaf leaf =>
    cases leaf <;> simp [Ty.schema, Leaf.schema, Json.get?, Json.object?, Members.get?,
      Keyed.lookup_cons, other]
  | _ => simp [Ty.schema, Json.get?, Json.object?, Members.get?, Keyed.lookup_cons, other]

namespace Field

/-- What a schema says of a field beside its type. -/
def annotations (field : Field) : List (String × Option Json) := [
  ("title", field.title.map .str),
  ("description", field.description.map .str),
  ("minLength", field.constraints.minLength.map .ofNat),
  ("maxLength", field.constraints.maxLength.map .ofNat),
  ("enum", field.constraints.allowed.map .arr),
  ("default", if field.ty.base.isLiteral then none else field.default.value?)]

def annotationKeywords : List String :=
  ["title", "description", "minLength", "maxLength", "enum", "default"]

theorem schema_eq {field : Field} {members : Members} (schema : field.ty.schema = .obj members) :
    field.schema = .obj (members.insertSome field.annotations) := by
  cases field
  rw [Field.schema, schema]
  rfl

theorem schema_get? (field : Field) (key : String) :
    field.schema.get? key =
      (field.annotations.lookup key).join.or (field.ty.base.schema.get? key) := by
  have distinct : (Keyed.keys field.annotations).Nodup :=
    show annotationKeywords.Nodup by decide
  obtain ⟨members, schema⟩ := field.ty.schema_object
  rw [schema_eq schema, Ty.schema_base, schema]
  exact Members.get?_insertSome distinct members key

end Field

/-! ## What a schema states -/

/-- Members that say what the schema of a type says, annotations apart. A field writes its own into
the schema of its type, so this is what the induction over types has to be about. -/
def Ty.SaidBy (ty : Ty) (members : Members) : Prop :=
  ∀ key ∉ Field.annotationKeywords, members.get? key = ty.schema.get? key

/-- Whatever says what a type is states the type as it is restated, under its own title and
description. -/
def Ty.Stated (ty : Ty) : Prop :=
  ∀ members, ty.SaidBy members → (Json.obj members).States
    (ty.restated.entitled (Object.text? (members.get? "title"))
      (Object.text? (members.get? "description")))

theorem Node.Uncombined.of_absent {members : Members} (oneOf : members.get? "oneOf" = none)
    (anyOf : members.get? "anyOf" = none) (allOf : members.get? "allOf" = none) :
    Uncombined members :=
  ⟨by rw [combinator, oneOf], by rw [combinator, anyOf], by rw [combinator, allOf]⟩

namespace Ty

variable {ty : Ty} {members : Members}

theorem SaidBy.absent (said : ty.SaidBy members) (fits : ty.WellFormed) {key : String}
    (stranger : key ∉ Field.annotationKeywords) (other : key ∉ Ty.keywords) :
    members.get? key = none :=
  (said key stranger).trans (fits.schema_get?_none other)

/-- Members that say what a well-formed type is refer to nothing and define nothing. -/
theorem SaidBy.states (said : ty.SaidBy members) (fits : ty.WellFormed) {stated : Ty}
    (composed : Node.Composed Json.States members stated) : (Json.obj members).States stated :=
  composed.states (said.absent fits (by decide) (by decide))
    (Definitions.entries_of_bare (said.absent fits (by decide) (by decide))
      (said.absent fits (by decide) (by decide)))

theorem SaidBy.uncombined (said : ty.SaidBy members) (fits : ty.WellFormed)
    (oneOf : ty.schema.get? "oneOf" = none) : Node.Uncombined members :=
  .of_absent ((said "oneOf" (by decide)).trans oneOf) (said.absent fits (by decide) (by decide))
    (said.absent fits (by decide) (by decide))

theorem leaf_states {leaf : Leaf} (said : (Ty.leaf leaf).SaidBy members) :
    (Json.obj members).States (.leaf leaf) := by
  have type := said "type" (by decide)
  have const := said "const" (by decide)
  have format := said "format" (by decide)
  refine said.states .leaf (.scalar (said.uncombined .leaf ?_) ?_ ?_)
  · cases leaf <;> rfl
  · rw [Node.shape, type]
    cases leaf <;> rfl
  · rw [Scalar.leaf, Scalar.typeName, type, const, Scalar.formatName, format]
    cases leaf <;> rfl

theorem collection_states {item stated : Ty} {unique : Bool}
    (said : (collection item unique).SaidBy members) (fits : item.WellFormed)
    (states : item.schema.States stated) :
    (Json.obj members).States (collection stated unique) := by
  have whole : (collection item unique).WellFormed := by
    cases unique
    · exact .list fits
    · exact .set fits
  have type : members.get? "type" = some (.str "array") := by
    rw [said "type" (by decide)]
    cases unique <;> rfl
  have items : members.get? "items" = some item.schema := by
    rw [said "items" (by decide)]
    cases unique <;> rfl
  have repeats : ((members.get? "uniqueItems").bind Json.bool?).getD false = unique := by
    rw [said "uniqueItems" (by decide)]
    cases unique <;> rfl
  rw [← repeats]
  refine said.states whole (.array (said.uncombined whole ?_) ?_ items states)
  · cases unique <;> rfl
  · rw [Node.shape, type]
    rfl

theorem armSchemas_eq (arms : List Ty) : armSchemas arms = arms.map Ty.schema := by
  induction arms with
  | nil => rfl
  | cons arm rest ih => rw [armSchemas, ih, List.map_cons]

theorem oneOf_states {arms : List Ty} {stated : Ty → Ty} (said : (Ty.oneOf arms).SaidBy members)
    (fits : (Ty.oneOf arms).WellFormed)
    (states : ∀ arm ∈ arms, arm.schema.States (stated arm)) :
    (Json.obj members).States (.oneOf (arms.map stated)) := by
  have found : members.get? "oneOf" = some (.arr (arms.map Ty.schema)) := by
    rw [← armSchemas_eq]
    exact said "oneOf" (by decide)
  have listed : Node.combinator members "oneOf" = .ok (some (arms.map Ty.schema)) := by
    rw [Node.combinator, found]
    cases fits with
    | oneOf some _ =>
      cases arms with
      | nil => exact (some rfl).elim
      | cons arm rest => rfl
  refine said.states fits (.alternatives listed ?_)
  exact List.forall₂_map_left_iff.mpr (List.forall₂_map_right_iff.mpr
    (List.forall₂_same.mpr states))

theorem WellFormed.schema_title (fits : ty.WellFormed) :
    Object.text? (ty.schema.get? "title") = ty.title? ∧
      Object.text? (ty.schema.get? "description") = ty.description? := by
  cases fits with
  | @record record =>
    rw [schema, Record.schema_get?, Record.schema_get?]
    cases record with
    | mk title description fields => cases title <;> cases description <;> exact ⟨rfl, rfl⟩
  | @leaf leaf => cases leaf <;> exact ⟨rfl, rfl⟩
  | _ => exact ⟨rfl, rfl⟩

theorem WellFormed.schema_const (fits : ty.WellFormed) (required : Bool) :
    (match ty.schema.get? "const" with
      | some constant => .value constant
      | none => if required then .required else .noValue) = ty.impliedDefault required := by
  cases fits with
  | record =>
    rw [schema, Record.schema_get?]
    rfl
  | @leaf leaf => cases leaf <;> rfl
  | _ => rfl

end Ty

namespace Field

variable {field : Field} {members : Members}

theorem schema_of_other {key : String} (stranger : key ∉ annotationKeywords) :
    field.schema.get? key = field.ty.base.schema.get? key := by
  simp only [annotationKeywords, List.mem_cons, List.not_mem_nil, or_false, not_or] at stranger
  rw [schema_get?]
  simp [annotations, Keyed.lookup_cons, stranger]

theorem saidBy (schema : field.schema = .obj members) : field.ty.base.SaidBy members := by
  intro key stranger
  rw [← schema_of_other stranger, schema]
  rfl

theorem limit_states {base : Ty} {property : Json} {keyword : String} {length : Option Nat}
    (found : property.get? keyword = length.map .ofNat)
    (text : length.isSome → base = .leaf .string ∨ base = .leaf .uri) :
    Object.limit base property keyword = .ok length := by
  cases length with
  | none => simp [Object.limit, Object.length, found]
  | some n =>
    have kind : base.leaf?.any Leaf.isStringKind = true := by
      rcases text rfl with rfl | rfl <;> rfl
    rw [Object.limit, if_pos kind, Object.length, found]
    simp [Json.ofNat, Json.nat?]

theorem text?_or (own other : Option String) (found : Option Json)
    (same : Object.text? found = other) :
    Object.text? ((own.map .str).or found) = own.or other := by
  cases own with
  | none => exact same
  | some text => rfl

theorem schema_title (fits : field.ty.base.WellFormed) :
    Object.text? (field.schema.get? "title") = field.title.or field.ty.base.title? ∧
      Object.text? (field.schema.get? "description") =
        field.description.or field.ty.base.description? := by
  rw [schema_get?, schema_get?]
  exact ⟨text?_or _ _ _ fits.schema_title.1, text?_or _ _ _ fits.schema_title.2⟩

/-- The schema of a field states the restated base of the field. -/
theorem schema_states (fits : field.ty.base.WellFormed) (stated : field.ty.base.Stated) :
    field.schema.States field.restatedBase := by
  obtain ⟨inner, schema⟩ := field.ty.schema_object
  have whole := schema_eq schema
  obtain ⟨title, description⟩ := schema_title fits
  have states := stated _ (saidBy whole)
  rw [whole] at title description ⊢
  rw [restatedBase, ← title, ← description]
  exact states

theorem schema_annotated (fits : field.ty.base.WellFormed) {key : String} {value : Option Json}
    (listed : field.annotations.lookup key = some value) (stranger : key ∉ Ty.keywords) :
    field.schema.get? key = value := by
  rw [schema_get?, listed, fits.schema_get?_none stranger]
  exact Option.or_none ..

theorem constraints_states (regular : field.Regular) (fits : field.ty.base.WellFormed) :
    Object.constraints field.schema field.restatedBase = .ok field.constraints := by
  have base (text : field.ty.base = .leaf .string ∨ field.ty.base = .leaf .uri) :
      field.restatedBase = .leaf .string ∨ field.restatedBase = .leaf .uri := by
    rcases text with text | text <;> simp [restatedBase, text, Ty.restated, Ty.entitled]
  have shortest : Object.limit field.restatedBase field.schema "minLength" =
      .ok field.constraints.minLength :=
    limit_states (schema_annotated fits rfl (by decide)) fun set =>
      base (regular.lengths (.inl set))
  have longest : Object.limit field.restatedBase field.schema "maxLength" =
      .ok field.constraints.maxLength :=
    limit_states (schema_annotated fits rfl (by decide)) fun set =>
      base (regular.lengths (.inr set))
  have allowed : Object.allowedValues field.schema = .ok field.constraints.allowed := by
    rw [Object.allowedValues, schema_annotated fits rfl (by decide)]
    cases field.constraints.allowed <;> rfl
  rw [Object.constraints, shortest, longest, allowed]
  rfl

/-- From the schema of a field its restated self is read, if the record lists it as it is. -/
theorem restated_isField (regular : field.Regular) (fits : field.ty.base.WellFormed)
    (states : field.schema.States field.restatedBase) {required : Option (List String)}
    (listed : Object.isRequired required field.name = field.required) :
    Node.IsField Json.States required (field.name, field.schema) field.restated := by
  refine ⟨field.restatedBase, field.constraints, states, constraints_states regular fits, ?_⟩
  obtain ⟨title, description⟩ := schema_title fits
  rw [restated_eq, Object.fieldOf, listed, title, description, schema_of_other (by decide)]
  congr 1
  exact fits.impliedDefault_restated.trans (fits.schema_const _).symm

end Field

namespace Record

theorem propertySchemas_eq (fields : List Field) :
    propertySchemas fields = fields.map fun field => (field.name, field.schema) := by
  induction fields with
  | nil => rfl
  | cons field rest ih => rw [propertySchemas, ih, List.map_cons]

theorem mapM_name (fields : List Field) :
    (fields.map fun field => Json.str field.name).mapM Json.string? =
      some (fields.map (·.name)) := by
  induction fields with
  | nil => rfl
  | cons field rest ih => simp [Json.string?, ih]

/-- The list of required names, or its absence, says of each field whether it is required. -/
theorem requiredList_states {fields : List Field} (names : (fields.map (·.name)).Nodup)
    {members : Members} (found : members.get? "required" = requiredList fields) :
    ∃ required, Object.requiredNames members = .ok required ∧
      ∀ field ∈ fields, Object.isRequired required field.name = field.required := by
  unfold requiredList at found
  split at found
  · next every =>
    refine ⟨none, by rw [Object.requiredNames, found], fun field member => ?_⟩
    exact (List.all_eq_true.mp every field member).symm
  · refine ⟨some ((fields.filter (·.required)).map (·.name)), ?_, fun field member => ?_⟩
    · simp only [Object.requiredNames, found, mapM_name]
    · rw [Object.isRequired, Bool.eq_iff_iff, List.contains_iff_mem]
      constructor
      · intro inside
        obtain ⟨other, here, same⟩ := List.mem_map.mp inside
        obtain ⟨here, needed⟩ := List.mem_filter.mp here
        rw [← List.inj_on_of_nodup_map names here member same]
        exact needed
      · intro needed
        exact List.mem_map.mpr ⟨field, List.mem_filter.mpr ⟨member, needed⟩, rfl⟩

end Record

theorem Ty.record_states {record : Record} {members : Members}
    (said : (Ty.record record).SaidBy members) (fits : (Ty.record record).WellFormed)
    (states : ∀ field ∈ record.fields, field.schema.States field.restatedBase) :
    (Json.obj members).States ((Ty.record record).restated.entitled
      (Object.text? (members.get? "title")) (Object.text? (members.get? "description"))) := by
  obtain ⟨names, fields⟩ := Record.wellFormed_iff.mp fits
  have tells {key : String} (stranger : key ∉ Field.annotationKeywords) :
      members.get? key = (record.entries.lookup key).join := by
    rw [said key stranger, Ty.schema, Record.schema_get?]
  have type : members.get? "type" = some (.str "object") := tells (by decide)
  have shape : Node.shape members = .object := by
    rw [Node.shape, type]
    rfl
  have distinct : (Keyed.keys (Record.propertySchemas record.fields)).Nodup := by
    rw [Record.propertySchemas_eq, Keyed.keys, List.map_map]
    exact names
  have found : members.get? "properties" = some (.obj (Record.propertySchemas record.fields)) := by
    have same := Keyed.ofPairs_of_nodup distinct
    rw [tells (by decide)]
    exact congrArg (some ∘ Json.obj) same
  have properties : Object.properties members = .ok (Record.propertySchemas record.fields) := by
    rw [Object.properties, found]
  obtain ⟨required, read, listed⟩ := Record.requiredList_states names (tells (by decide))
  rw [Ty.restated_record]
  refine said.states fits (.object (said.uncombined fits ?_) shape properties read ?_)
  · rw [Ty.schema, Record.schema_get?]
    rfl
  · rw [Record.propertySchemas_eq]
    refine List.forall₂_map_left_iff.mpr (List.forall₂_map_right_iff.mpr
      (List.forall₂_same.mpr fun field member => ?_))
    exact Field.restated_isField (fields field member).1 (fields field member).2
      (states field member) (listed field member)

namespace Ty.WellFormed

variable {ty : Ty}

theorem schema_states (fits : ty.WellFormed) (stated : ty.Stated) :
    ty.schema.States ty.restated := by
  obtain ⟨members, schema⟩ := ty.schema_object
  have said : ty.SaidBy members := by
    intro key _
    rw [schema]
    rfl
  have states := stated members said
  obtain ⟨title, description⟩ := fits.schema_title
  rw [schema] at title description ⊢
  change Object.text? (members.get? "title") = _ at title
  change Object.text? (members.get? "description") = _ at description
  have plain := ty.restated.entitled_self
  rw [fits.title?_restated.1, fits.title?_restated.2, ← title, ← description] at plain
  exact plain ▸ states

theorem stated (fits : ty.WellFormed) : ty.Stated := by
  induction fits with
  | @record record names regular inside ih =>
    intro members said
    exact Ty.record_states said (.record names regular inside) fun field member =>
      Field.schema_states (inside field member) (ih field member)
  | @list item inside ih =>
    intro members said
    have said : (collection item false).SaidBy members := said
    exact collection_states said inside (inside.schema_states ih)
  | @set item inside ih =>
    intro members said
    have said : (collection item true).SaidBy members := said
    exact collection_states said inside (inside.schema_states ih)
  | @oneOf arms some inside ih =>
    intro members said
    rw [Ty.restated, restatedArms_eq]
    exact oneOf_states said (.oneOf some inside) fun arm member =>
      (inside arm member).schema_states (ih arm member)
  | leaf => exact fun members said => leaf_states said

/-- The schema of a well-formed type compiles to the type restated, and nothing is loaded. -/
theorem compile_schema (fits : ty.WellFormed) (loader : Loader) (registry : Registry) :
    (Compilation.run loader (.inline ty.schema) registry).outcome = .ok ty.restated ∧
      (Compilation.run loader (.inline ty.schema) registry).opened = [] :=
  (fits.schema_states fits.stated).run loader registry

end Ty.WellFormed

theorem Registry.wellFormed_empty : Registry.WellFormed .empty := by
  simp [Registry.WellFormed, Registry.empty]

/-- The schema of a compiled type compiles under all circumstances, without loading anything, to one
type. That type differs from the compiled one in titles, descriptions and defaults only, and its own
schema gives it back. -/
theorem compile_schema_normal {loader : Loader} {source : Source} {ty : Ty}
    (documents : ∀ location document, loader.load location = .ok document → document.Distinct)
    (distinct : source.Distinct) (compiled : compile loader source .empty = .ok ty) :
    ∃ again : Ty,
      (∀ other registry,
        (Compilation.run other (.inline ty.schema) registry).outcome = .ok again ∧
          (Compilation.run other (.inline ty.schema) registry).opened = []) ∧
      again.stripped = ty.stripped ∧
      ∀ other registry, compile other (.inline again.schema) registry = .ok again := by
  have fits := Compilation.wellFormed documents distinct Registry.wellFormed_empty compiled
  refine ⟨ty.restated, fits.compile_schema, fits.stripped_restated, fun other registry => ?_⟩
  have settled := (fits.restated.compile_schema other registry).1
  rwa [fits.restated_restated] at settled

/-- A property whose text is pinned to a constant. -/
def pinnedText (constant : Json) : Json :=
  .obj [("properties", .obj [("a", .obj [("type", .str "string"), ("const", constant)])])]

/-- The type of a property that is pinned to the digit five, with some default. -/
def pinnedFive (default : Json) : Ty :=
  .record ⟨none, none,
    [⟨"a", .leaf (.literal "5"), true, .value default, .unlimited, none, none⟩]⟩

theorem pinnedText_distinct {constant : Json} (distinct : constant.Distinct) :
    (Source.inline (pinnedText constant)).Distinct := by
  have property : Json.Distinct (.obj [("type", .str "string"), ("const", constant)]) :=
    .obj (by simp [Keyed.keys]) (by simp [Json.Distinct.str, distinct])
  refine .obj (by simp [Keyed.keys]) (List.forall_mem_singleton.mpr ?_)
  exact .obj (by simp [Keyed.keys]) (List.forall_mem_singleton.mpr property)

theorem compile_schema_normal_pinnedNumber :
    compile Bundle.empty.loader (.inline (pinnedText (.ofNat 5))) .empty =
        .ok (pinnedFive (.ofNat 5)) ∧
      ∃ again : Ty,
        (∀ other registry,
          (Compilation.run other (.inline (pinnedFive (.ofNat 5)).schema) registry).outcome =
              .ok again ∧
            (Compilation.run other (.inline (pinnedFive (.ofNat 5)).schema) registry).opened =
              []) ∧
        again.stripped = (pinnedFive (.ofNat 5)).stripped ∧
        ∀ other registry, compile other (.inline again.schema) registry = .ok again := by
  have compiled : compile Bundle.empty.loader (.inline (pinnedText (.ofNat 5))) .empty =
      .ok (pinnedFive (.ofNat 5)) := rfl
  exact ⟨compiled, compile_schema_normal (fun _ _ loaded => by cases loaded)
    (pinnedText_distinct .num) compiled⟩

/-- The schema of a compiled type gives that type back if every default in it goes without saying
and every record has the title and the description of the field that holds it, and only then. -/
theorem compile_schema_gives_back {loader : Loader} {source : Source} {ty : Ty}
    (documents : ∀ location document, loader.load location = .ok document → document.Distinct)
    (distinct : source.Distinct) (compiled : compile loader source .empty = .ok ty) :
    ∃ again : Ty,
      (∀ other registry, compile other (.inline ty.schema) registry = .ok again) ∧
      (ty.Explicit → again = ty) ∧ (again.same ty = true → ty.Explicit) := by
  have fits := Compilation.wellFormed documents distinct Registry.wellFormed_empty compiled
  refine ⟨ty.restated, fun other registry => (fits.compile_schema other registry).1, ?_, ?_⟩
  · intro explicit
    exact explicit.restated fits
  · intro same
    exact fits.explicit_of_same same

theorem compile_schema_gives_back_pinnedText :
    compile Bundle.empty.loader (.inline (pinnedText (.str "5"))) .empty =
        .ok (pinnedFive (.str "5")) ∧
      compile Bundle.empty.loader (.inline (pinnedFive (.str "5")).schema) .empty =
        .ok (pinnedFive (.str "5")) := by
  have compiled : compile Bundle.empty.loader (.inline (pinnedText (.str "5"))) .empty =
      .ok (pinnedFive (.str "5")) := rfl
  have explicit : (pinnedFive (.str "5")).Explicit := by
    refine .record (List.forall_mem_singleton.mpr ⟨rfl, ?_, ?_⟩)
      (List.forall_mem_singleton.mpr .leaf)
    · rintro _ ⟨⟩
    · rintro _ ⟨⟩
  obtain ⟨again, stated, same, -⟩ := compile_schema_gives_back (fun _ _ loaded => by cases loaded)
    (pinnedText_distinct .str) compiled
  obtain rfl := same explicit
  exact ⟨compiled, stated _ _⟩

/-- A literal is written out as its text, so a default that is a number comes back as a text. -/
theorem compile_schema_turns_number_to_text :
    compile Bundle.empty.loader (.inline (pinnedText (.ofNat 5))) .empty =
        .ok (pinnedFive (.ofNat 5)) ∧
      compile Bundle.empty.loader (.inline (pinnedFive (.ofNat 5)).schema) .empty =
        .ok (pinnedFive (.str "5")) ∧
      (pinnedFive (.str "5")).same (pinnedFive (.ofNat 5)) = false := by
  refine ⟨rfl, rfl, ?_⟩
  decide +kernel

end SchemaTypes
