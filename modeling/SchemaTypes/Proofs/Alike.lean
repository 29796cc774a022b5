import SchemaTypes.Proofs.Keyed
import SchemaTypes.Proofs.Plan
import SchemaTypes.Schema.Node

/-! Plans that differ only in the nodes that they visit and in the remarks that they take down, and
nodes whose bodies have such plans: they say the same but for parts that correspond to each other. -/
namespace SchemaTypes

/-- Plans of one shape, remarks apart, that visit related nodes. -/
inductive Plan.Alike (related : Json → Json → Prop) : {α : Type} → Plan α → Plan α → Prop where
  | done {α : Type} (a : α) : Alike related (.done a) (.done a)
  | fail {α : Type} (fault : Fault) : Alike related (.fail fault : Plan α) (.fail fault)
  | note (remark : Remark) : Alike related (.note remark) (.note remark)
  | visit {node node' : Json} : related node node' → Alike related (.visit node) (.visit node')
  | under {α : Type} {plan plan' : Plan α} (segments : List String) :
      Alike related plan plan' → Alike related (.under segments plan) (.under segments plan')
  | andThen {α β : Type} {first first' : Plan α} {next next' : α → Plan β} :
      Alike related first first' → (∀ a, Alike related (next a) (next' a)) →
      Alike related (.andThen first next) (.andThen first' next')
  /-- What is handed on may differ when it is known beforehand. -/
  | known {α α' β : Type} {a : α} {a' : α'} {next : α → Plan β} {next' : α' → Plan β} :
      Alike related (next a) (next' a') →
      Alike related (.andThen (.done a) next) (.andThen (.done a') next')
  | stopped {α α' β : Type} (fault : Fault) {next : α → Plan β} {next' : α' → Plan β} :
      Alike related (.andThen (.fail fault) next) (.andThen (.fail fault) next')
  /-- What one side remarks the other need not. -/
  | remarkLeft {α : Type} (remark : Remark) {plan plan' : Plan α} : Alike related plan plan' →
      Alike related (.andThen (.note remark) fun _ => plan) plan'
  | remarkRight {α : Type} (remark : Remark) {plan plan' : Plan α} : Alike related plan plan' →
      Alike related plan (.andThen (.note remark) fun _ => plan')

namespace Plan.Alike

variable {related : Json → Json → Prop} {α β : Type}

theorem refl (reflexive : ∀ node, related node node) (plan : Plan α) : plan.Alike related plan := by
  induction plan with
  | done a => exact .done a
  | fail fault => exact .fail fault
  | note remark => exact .note remark
  | visit node => exact .visit (reflexive node)
  | under segments plan ih => exact .under segments ih
  | andThen first next firstIH nextIH => exact .andThen firstIH nextIH

theorem ofExcept_bind {outcome : Except Fault α} {next next' : α → Plan β}
    (rest : ∀ a, Alike related (next a) (next' a)) :
    Alike related (Plan.ofExcept outcome >>= next) (Plan.ofExcept outcome >>= next') := by
  cases outcome with
  | ok a => exact .known (rest a)
  | error fault => exact .stopped fault

/-- Plans give the same when they visit nodes of the same types. -/
theorem yields {plan plan' : Plan α} {judged judged' : Json → Ty → Prop} {a : α}
    (alike : plan.Alike related plan')
    (agree : ∀ node node' ty, related node node' → (judged node ty ↔ judged' node' ty)) :
    plan.Yields judged a ↔ plan'.Yields judged' a := by
  induction alike with
  | done | fail | note => rfl
  | stopped => simp [Yields]
  | visit same => exact agree _ _ _ same
  | under segments _ ih => exact ih
  | andThen _ _ firstIH nextIH =>
    exact exists_congr fun a => and_congr firstIH (nextIH a)
  | known _ ih =>
    simp only [Yields, exists_eq_left]
    exact ih
  | remarkLeft _ _ ih => simpa [Yields] using ih
  | remarkRight _ _ ih => simpa [Yields] using ih

end Plan.Alike

namespace Object

/-- The keywords of a property that its field is made of, besides those for its type. -/
def fieldKeywords : List String :=
  ["const", "title", "description", "enum", "minLength", "maxLength"] ++ numericBounds

/-- The keywords of a property that its field carries. The others are remarked on only. -/
def carriedKeywords : List String :=
  ["const", "title", "description", "enum", "minLength", "maxLength"]

variable {property property' : Json}

theorem noteBounds_alike {related : Json → Json → Prop} (keywords : List String) :
    (noteBounds property keywords).Alike related (noteBounds property' keywords) := by
  induction keywords with
  | nil => exact .done ()
  | cons keyword rest ih =>
    unfold noteBounds
    split
    · split
      · exact .remarkLeft _ (.remarkRight _ ih)
      · exact .remarkLeft _ ih
    · split
      · exact .remarkRight _ ih
      · exact ih

variable (same : ∀ keyword ∈ carriedKeywords, property'.get? keyword = property.get? keyword)

include same

theorem constraints_congr (base : Ty) : constraints property' base = constraints property base := by
  have lengths (keyword : String) (listed : keyword ∈ carriedKeywords) :
      limit base property' keyword = limit base property keyword := by
    simp only [limit, length, same keyword listed]
  have values : allowedValues property' = allowedValues property := by
    simp only [allowedValues, same "enum" (by decide)]
  simp only [constraints, lengths "minLength" (by decide), lengths "maxLength" (by decide), values]

theorem fieldOf_congr (key : String) (required : Bool) (base : Ty) (limits : Constraints) :
    fieldOf key property' required base limits = fieldOf key property required base limits := by
  simp only [fieldOf, same "const" (by decide), same "title" (by decide),
    same "description" (by decide)]

theorem field_alike {related : Json → Json → Prop} (reflexive : ∀ node, related node node)
    (type : related property property') (required : Option (List String)) (key : String) :
    (field required key property).Alike related (field required key property') := by
  refine .andThen (.visit type) fun base => ?_
  simp only [constraints_congr same, fieldOf_congr same]
  split
  · exact .andThen (noteBounds_alike _) fun _ => .refl reflexive _
  · exact .refl reflexive _

end Object

theorem Json.get?_insert_of_ne {members : Members} {keyword changed : String} {value : Json}
    (differ : keyword ≠ changed) :
    (Json.obj (Keyed.insert members changed value)).get? keyword =
      (Json.obj members).get? keyword := Keyed.lookup_insert_of_ne differ _ _

namespace Node

/-- Lists of related nodes; whatever else a keyword holds is the same. -/
inductive AlikeItems (related : Json → Json → Prop) : Json → Json → Prop where
  | same (value : Json) : AlikeItems related value value
  | nodes {nodes nodes' : List Json} : List.Forall₂ related nodes nodes' →
      AlikeItems related (.arr nodes) (.arr nodes')

/-- Related nodes that say the same about the field of a property. -/
def AlikeProperty (related : Json → Json → Prop) (property property' : Json) : Prop :=
  related property property' ∧
    ∀ keyword ∈ Object.carriedKeywords, property'.get? keyword = property.get? keyword

inductive AlikeProperties (related : Json → Json → Prop) : Json → Json → Prop where
  | same (value : Json) : AlikeProperties related value value
  | properties {properties properties' : Members} :
      Keyed.Aligned (AlikeProperty related) properties properties' →
      AlikeProperties related (.obj properties) (.obj properties')

/-- The keywords that list nodes to combine. -/
def combinators : List String := ["oneOf", "anyOf", "allOf"]

/-- The keywords of a node that its body is made of, besides those that hold nodes. -/
def plainKeywords : List String :=
  ["type", "title", "description", "required", "const", "format", "uniqueItems"]

/-- The keywords that say anything about a node, or about the field of a property. -/
def readKeywords : List String :=
  ["$ref", "definitions", "$defs", "properties", "items"] ++ combinators ++ plainKeywords ++
    Object.fieldKeywords

/-- Nodes that say the same, but for parts that are related. -/
structure Alike (related : Json → Json → Prop) (members members' : Members) : Prop where
  plain : ∀ keyword ∈ plainKeywords, members'.get? keyword = members.get? keyword
  combined : ∀ keyword ∈ combinators,
    Option.Rel (AlikeItems related) (members.get? keyword) (members'.get? keyword)
  properties :
    Option.Rel (AlikeProperties related) (members.get? "properties") (members'.get? "properties")
  items : Option.Rel related (members.get? "items") (members'.get? "items")

variable {related : Json → Json → Prop} {members members' : Members}

/-- What a field is made of stands under no keyword that holds nodes. -/
theorem fieldKeywords_apart : ∀ keyword ∈ Object.fieldKeywords,
    keyword ∉ Definitions.keywords ∧ keyword ∉ combinators ∧ keyword ≠ "items" ∧
      keyword ≠ "properties" ∧ keyword ∈ readKeywords := by
  decide

theorem arms_alike {nodes nodes' : List Json} (same : List.Forall₂ related nodes nodes')
    (index : Nat) : (arms index nodes).Alike related (arms index nodes') := by
  induction same generalizing index with
  | nil => exact .done []
  | cons first _ ih =>
    exact .andThen (.under _ (.visit first)) fun _ => .andThen (ih _) fun _ => .done _

theorem memberRecords_alike {nodes nodes' : List Json} (same : List.Forall₂ related nodes nodes')
    (index : Nat) : (memberRecords index nodes).Alike related (memberRecords index nodes') := by
  induction same generalizing index with
  | nil => exact .done []
  | cons first _ ih =>
    refine .andThen (.under _ (.visit first)) fun ty => ?_
    cases ty with
    | record record => exact .andThen (ih _) fun _ => .done _
    | _ => exact .fail _

theorem fields_alike (reflexive : ∀ node, related node node) {properties properties' : Members}
    (same : Keyed.Aligned (AlikeProperty related) properties properties')
    (required : Option (List String)) :
    (Object.fields required properties).Alike related (Object.fields required properties') := by
  induction same with
  | nil => exact .done []
  | @cons property property' _ _ first _ ih =>
    obtain ⟨key, node⟩ := property
    obtain ⟨key', node'⟩ := property'
    obtain ⟨name, type, agree⟩ := first
    cases name
    exact .andThen (.under _ (Object.field_alike agree reflexive type required key)) fun _ =>
      .andThen ih fun _ => .done _

/-- Which keywords are left out makes no difference. -/
theorem noteIgnored_alike (keywords : List String) :
    (noteIgnored members keywords).Alike related (noteIgnored members' keywords) := by
  induction keywords with
  | nil => exact .done ()
  | cons keyword rest ih =>
    unfold noteIgnored
    split
    · split
      · exact .remarkLeft _ (.remarkRight _ ih)
      · exact .remarkLeft _ ih
    · split
      · exact .remarkRight _ ih
      · exact ih

theorem forall₂_set (reflexive : ∀ node, related node node) {nodes : List Json} {i : Nat}
    {node node' : Json} (found : nodes[i]? = some node) (here : related node node') :
    List.Forall₂ related nodes (nodes.set i node') := by
  induction nodes generalizing i with
  | nil => exact .nil
  | cons first rest ih =>
    cases i with
    | zero =>
      cases found
      exact .cons here (List.forall₂_same.mpr fun node _ => reflexive node)
    | succ i => exact .cons (reflexive first) (ih found)

theorem alike_option {R : Json → Json → Prop} (reflexive : ∀ value, R value value)
    {held held' : Option Json} (same : held' = held) : Option.Rel R held held' := by
  subst same
  cases held' with
  | none => exact .none
  | some value => exact .some (reflexive value)

namespace Alike

/-- Nodes of which one keyword differs, but in parts only that are related. -/
theorem of_insert (reflexive : ∀ node, related node node) {keyword : String} {value value' : Json}
    (held : members.get? keyword = some value) (other : keyword ∉ plainKeywords)
    (combined : keyword ∈ combinators → AlikeItems related value value')
    (properties : keyword = "properties" → AlikeProperties related value value')
    (items : keyword = "items" → related value value') :
    Alike related members (Keyed.insert members keyword value') := by
  have same {keyword' : String} (differ : keyword' ≠ keyword) :
      Members.get? (Keyed.insert members keyword value') keyword' = members.get? keyword' :=
    Keyed.lookup_insert_of_ne differ _ _
  have changed : Members.get? (Keyed.insert members keyword value') keyword = some value' :=
    Keyed.lookup_insert_self _ _ _
  have at_keyword {R : Json → Json → Prop} (all : ∀ value, R value value) (keyword' : String)
      (here : keyword' = keyword → R value value') : Option.Rel R (members.get? keyword')
        (Members.get? (Keyed.insert members keyword value') keyword') := by
    by_cases same' : keyword' = keyword
    · subst same'
      rw [held, changed]
      exact .some (here rfl)
    · exact alike_option all (same same')
  constructor
  · intro keyword' listed
    exact same (by rintro rfl; exact other listed)
  · intro keyword' listed
    exact at_keyword .same keyword' fun here => combined (here ▸ listed)
  · exact at_keyword .same _ fun here => properties here.symm
  · exact at_keyword reflexive _ fun here => items here.symm

theorem of_items (reflexive : ∀ node, related node node) {node node' : Json}
    (held : members.get? "items" = some node) (same : related node node') :
    Alike related members (Keyed.insert members "items" node') :=
  .of_insert reflexive held (by decide) (fun listed => absurd listed (by decide))
    (fun same => absurd same (by decide)) fun _ => same

theorem of_listed (reflexive : ∀ node, related node node) {keyword : String}
    (listed : keyword ∈ combinators) {nodes : List Json} {i : Nat} {node node' : Json}
    (held : members.get? keyword = some (.arr nodes)) (found : nodes[i]? = some node)
    (same : related node node') :
    Alike related members (Keyed.insert members keyword (.arr (nodes.set i node'))) := by
  have combinator : ∀ keyword ∈ combinators,
      keyword ∉ plainKeywords ∧ keyword ≠ "properties" ∧ keyword ≠ "items" := by decide
  obtain ⟨plain, properties, items⟩ := combinator keyword listed
  exact .of_insert reflexive held plain (fun _ => .nodes (forall₂_set reflexive found same))
    (fun same => absurd same properties) fun same => absurd same items

theorem of_property (reflexive : ∀ node, related node node) {properties : Members} {key : String}
    {node node' : Json} (held : members.get? "properties" = some (.obj properties))
    (found : properties.lookup key = some node) (same : AlikeProperty related node node') :
    Alike related members
      (Keyed.insert members "properties" (.obj (Keyed.insert properties key node'))) := by
  refine .of_insert reflexive held (by decide) (fun listed => absurd listed (by decide))
    (fun _ => .properties ?_) fun same => absurd same (by decide)
  refine Keyed.Aligned.insert_right ?_ found same
  exact List.forall₂_same.mpr fun property _ => ⟨rfl, reflexive property.2, fun _ _ => rfl⟩

/-- What stands under a keyword that nothing is compiled under may be anything. -/
theorem of_aside (reflexive : ∀ node, related node node) {keyword : String}
    (unread : keyword ∉ readKeywords) {value value' : Json}
    (held : members.get? keyword = some value) :
    Alike related members (Keyed.insert members keyword value') := by
  have plain : ∀ keyword ∈ plainKeywords, keyword ∈ readKeywords := by decide
  have combines : ∀ keyword ∈ combinators, keyword ∈ readKeywords := by decide
  refine .of_insert reflexive held (fun listed => unread (plain _ listed))
    (fun listed => absurd (combines _ listed) unread) ?_ ?_
  · rintro rfl
    exact absurd (by decide) unread
  · rintro rfl
    exact absurd (by decide) unread

/-- Nodes of which only the definitions differ. -/
theorem of_definitions (reflexive : ∀ node, related node node)
    (same : ∀ keyword ∉ Definitions.keywords, members'.get? keyword = members.get? keyword) :
    Alike related members members' where
  plain keyword listed := same keyword (by revert keyword; decide)
  combined keyword listed := alike_option .same (same keyword (by revert keyword; decide))
  properties := alike_option .same (same _ (by decide))
  items := alike_option reflexive (same _ (by decide))

variable (alike : Alike related members members') (reflexive : ∀ node, related node node)

include alike

theorem shape : shape members' = shape members := by
  have type := alike.plain "type" (by decide)
  have properties := alike.properties
  unfold Node.shape
  rw [type]
  split
  · generalize members.get? "properties" = held, members'.get? "properties" = held' at properties
    cases properties with
    | none => rfl
    | some related =>
      cases related with
      | same => rfl
      | properties related => cases related <;> rfl
  all_goals rfl

theorem leaf : Scalar.leaf members' = Scalar.leaf members := by
  simp only [Scalar.leaf, Scalar.typeName, Scalar.formatName, alike.plain "type" (by decide),
    alike.plain "format" (by decide), alike.plain "const" (by decide)]

include reflexive

/-- A combinator that has nodes on one side has related ones on the other; and if it has none, both
sides end or go on together. -/
theorem combinator {β : Type} {keyword : String} (listed : keyword ∈ combinators)
    {next next' : Option (List Json) → Plan β}
    (nodes : ∀ nodes nodes', List.Forall₂ related nodes nodes' →
      (next (some nodes)).Alike related (next' (some nodes')))
    (none : (next none).Alike related (next' none)) :
    (Plan.ofExcept (combinator members keyword) >>= next).Alike related
      (Plan.ofExcept (Node.combinator members' keyword) >>= next') := by
  have held := alike.combined keyword listed
  unfold Node.combinator
  generalize members.get? keyword = value, members'.get? keyword = value' at held
  cases held with
  | none => exact .known none
  | some same =>
    cases same with
    | same =>
      refine Plan.Alike.ofExcept_bind fun found => ?_
      cases found with
      | none => exact none
      | some items => exact nodes items items (List.forall₂_same.mpr fun node _ => reflexive node)
    | nodes same =>
      cases same with
      | nil => exact .known none
      | cons first rest => exact .known (nodes _ _ (.cons first rest))

theorem array : (Node.array members).Alike related (Node.array members') := by
  have unique := alike.plain "uniqueItems" (by decide)
  have items := alike.items
  unfold Node.array
  rw [unique]
  generalize members.get? "items" = held, members'.get? "items" = held' at items
  cases items with
  | none => exact .refl reflexive _
  | some same => exact .andThen (.under _ (.visit same)) fun _ => .refl reflexive _

theorem record : (Object.record members).Alike related (Object.record members') := by
  have required : Object.requiredNames members' = Object.requiredNames members := by
    simp only [Object.requiredNames, alike.plain "required" (by decide)]
  have title := alike.plain "title" (by decide)
  have description := alike.plain "description" (by decide)
  have properties := alike.properties
  unfold Object.record
  rw [required, title, description]
  unfold Object.properties
  generalize members.get? "properties" = held, members'.get? "properties" = held' at properties
  cases properties with
  | none => exact .refl reflexive _
  | some related =>
    cases related with
    | same => exact .refl reflexive _
    | properties related =>
      refine .known (Plan.Alike.ofExcept_bind fun required => ?_)
      exact .andThen (fields_alike reflexive related required) fun _ => .done _

theorem body : (body members).Alike related (Node.body members') := by
  unfold Node.body
  refine alike.combinator reflexive (by decide) (fun nodes nodes' same => ?_) ?_
  · exact .andThen (arms_alike same 0) fun _ => .done _
  refine alike.combinator reflexive (by decide) (fun nodes nodes' same => ?_) ?_
  · exact .fail _
  refine alike.combinator reflexive (by decide) (fun nodes nodes' same => ?_) ?_
  · exact .andThen (memberRecords_alike same 0) fun _ => .refl reflexive _
  dsimp only
  rw [alike.shape]
  split
  · exact .andThen (alike.record reflexive) fun _ => .done _
  · exact alike.array reflexive
  · rw [alike.leaf]
    exact .refl reflexive _

end Alike

end Node

end SchemaTypes
