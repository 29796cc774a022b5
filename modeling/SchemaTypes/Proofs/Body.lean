import SchemaTypes.Proofs.Keyed
import SchemaTypes.Proofs.Plan
import SchemaTypes.Schema.Node

/-! What a node without a reference can become, and which parts of it are compiled on the way. Both
are read off the plan for its body, so that nothing else has to look into it. -/
namespace SchemaTypes.Node

/-- The parts of a node that its body is made of, with their paths. Definitions are not among
them. -/
inductive Part (members : Members) : List String → Json → Prop where
  | alternative {nodes : List Json} {i : Nat} {node : Json} :
      members.get? "oneOf" = some (.arr nodes) → nodes[i]? = some node →
      Part members ["oneOf", toString i] node
  | conjunct {nodes : List Json} {i : Nat} {node : Json} :
      members.get? "allOf" = some (.arr nodes) → nodes[i]? = some node →
      Part members ["allOf", toString i] node
  | property {properties : Members} {key : String} {node : Json} :
      members.get? "properties" = some (.obj properties) → (key, node) ∈ properties →
      Part members ["properties", key] node
  | items {node : Json} : members.get? "items" = some node → Part members ["items"] node

/-- The field of a property whose node is judged to have some type. -/
def IsField (judged : Json → Ty → Prop) (required : Option (List String))
    (property : String × Json) (field : Field) : Prop :=
  ∃ base limits, judged property.2 base ∧ Object.constraints property.2 base = .ok limits ∧
    field = Object.fieldOf property.1 property.2 (Object.isRequired required property.1) base limits

/-- No combinator decides what a node is. -/
structure Uncombined (members : Members) : Prop where
  oneOf : combinator members "oneOf" = .ok none
  anyOf : combinator members "anyOf" = .ok none
  allOf : combinator members "allOf" = .ok none

/-- How the type of a node without a reference is put together from the types of its parts. There is
no rule for `anyOf`. -/
inductive Composed (judged : Json → Ty → Prop) (members : Members) : Ty → Prop where
  | alternatives {nodes : List Json} {arms : List Ty} :
      combinator members "oneOf" = .ok (some nodes) → List.Forall₂ judged nodes arms →
      Composed judged members (.oneOf arms)
  | conjunction {nodes : List Json} {first record : Record} {rest : List Record} :
      combinator members "oneOf" = .ok none → combinator members "anyOf" = .ok none →
      combinator members "allOf" = .ok (some nodes) →
      List.Forall₂ (fun node record => judged node (.record record)) nodes (first :: rest) →
      Record.mergeAll first rest = .ok record →
      Composed judged members (.record record)
  | object {properties : Members} {required : Option (List String)} {fields : List Field} :
      Uncombined members → shape members = .object →
      Object.properties members = .ok properties → Object.requiredNames members = .ok required →
      List.Forall₂ (IsField judged required) properties fields →
      Composed judged members (.record ⟨Object.text? (members.get? "title"),
        Object.text? (members.get? "description"), fields⟩)
  | array {node : Json} {item : Ty} :
      Uncombined members → shape members = .array → members.get? "items" = some node →
      judged node item →
      Composed judged members
        (Ty.collection item ((members.get? "uniqueItems").bind Json.bool? |>.getD false))
  | scalar {leaf : Leaf} :
      Uncombined members → shape members = .scalar → Scalar.leaf members = .ok leaf →
      Composed judged members (.leaf leaf)

/-- The parts of a node without a reference that are compiled for its body: those under the first
keyword that says what the node is. -/
inductive Visited (members : Members) : List String → Json → Prop where
  | alternative {nodes : List Json} {i : Nat} {node : Json} :
      combinator members "oneOf" = .ok (some nodes) → nodes[i]? = some node →
      Visited members ["oneOf", toString i] node
  | conjunct {nodes : List Json} {i : Nat} {node : Json} :
      combinator members "oneOf" = .ok none → combinator members "anyOf" = .ok none →
      combinator members "allOf" = .ok (some nodes) → nodes[i]? = some node →
      Visited members ["allOf", toString i] node
  | property {properties : Members} {required : Option (List String)} {key : String} {node : Json} :
      Uncombined members → shape members = .object → Object.properties members = .ok properties →
      Object.requiredNames members = .ok required → (key, node) ∈ properties →
      Visited members ["properties", key] node
  | items {node : Json} :
      Uncombined members → shape members = .array → members.get? "items" = some node →
      Visited members ["items"] node

variable {judged : Json → Ty → Prop} {members : Members}

/-! ## What a body can give -/

theorem arms_yields {index : Nat} {nodes : List Json} {types : List Ty} :
    (arms index nodes).Yields judged types ↔ List.Forall₂ judged nodes types := by
  induction nodes generalizing index types with
  | nil => simp [arms]
  | cons node rest ih => simp [arms, ih, List.forall₂_cons_left_iff]

theorem memberRecords_yields {index : Nat} {nodes : List Json} {records : List Record} :
    (memberRecords index nodes).Yields judged records ↔
      List.Forall₂ (fun node record => judged node (.record record)) nodes records := by
  induction nodes generalizing index records with
  | nil => simp [memberRecords]
  | cons node rest ih =>
    simp only [memberRecords, Plan.yields_bind, Plan.yields_under, Plan.yields_visit,
      List.forall₂_cons_left_iff]
    constructor
    · rintro ⟨ty, right, given⟩
      cases ty with
      | record record =>
        obtain ⟨others, given, same⟩ := given
        exact ⟨record, others, right, ih.mp given, same⟩
      | _ => exact given.elim
    · rintro ⟨record, others, right, given, same⟩
      exact ⟨.record record, right, others, ih.mpr given, same⟩

theorem noteBounds_yields {property : Json} {keywords : List String} :
    (Object.noteBounds property keywords).Yields judged () := by
  induction keywords with
  | nil => rfl
  | cons keyword rest ih =>
    unfold Object.noteBounds
    split
    · exact ⟨(), trivial, ih⟩
    · exact ih

theorem noteIgnored_yields {keywords : List String} :
    (noteIgnored members keywords).Yields judged () := by
  induction keywords with
  | nil => rfl
  | cons keyword rest ih =>
    unfold noteIgnored
    split
    · exact ⟨(), trivial, ih⟩
    · exact ih

theorem field_yields {required : Option (List String)} {key : String} {property : Json}
    {field : Field} :
    (Object.field required key property).Yields judged field ↔
      IsField judged required (key, property) field := by
  have limited {base : Ty} : (do
      if base.leaf? = some .number then Object.noteBounds property Object.numericBounds
      let limits ← Plan.ofExcept (Object.constraints property base)
      pure (Object.fieldOf key property (Object.isRequired required key) base limits)
        : Plan Field).Yields judged field ↔
      ∃ limits, Object.constraints property base = .ok limits ∧
        field = Object.fieldOf key property (Object.isRequired required key) base limits := by
    split
    · simp only [Plan.yields_bind, Plan.yields_ofExcept, Plan.yields_pure]
      constructor
      · rintro ⟨_, _, given⟩
        exact given
      · exact fun given => ⟨(), noteBounds_yields, given⟩
    · simp only [Plan.yields_bind, Plan.yields_ofExcept, Plan.yields_pure]
  simp only [Object.field, Plan.yields_bind, Plan.yields_visit, limited, IsField,
    exists_and_left]

theorem fields_yields {required : Option (List String)} {properties : Members}
    {fields : List Field} :
    (Object.fields required properties).Yields judged fields ↔
      List.Forall₂ (IsField judged required) properties fields := by
  induction properties generalizing fields with
  | nil => simp [Object.fields]
  | cons property rest ih =>
    simp [Object.fields, ih, field_yields, List.forall₂_cons_left_iff]

theorem record_yields {record : Record} :
    (Object.record members).Yields judged record ↔
      ∃ properties required fields, Object.properties members = .ok properties ∧
        Object.requiredNames members = .ok required ∧
        List.Forall₂ (IsField judged required) properties fields ∧
        record = ⟨Object.text? (members.get? "title"),
          Object.text? (members.get? "description"), fields⟩ := by
  simp only [Object.record, Plan.yields_bind, Plan.yields_ofExcept, Plan.yields_pure,
    fields_yields, exists_and_left]

theorem array_yields {ty : Ty} :
    (array members).Yields judged ty ↔ ∃ node item, members.get? "items" = some node ∧
      judged node item ∧
      ty = Ty.collection item ((members.get? "uniqueItems").bind Json.bool? |>.getD false) := by
  unfold array
  split
  · next absent => simp [absent]
  · next node found => simp [found]

theorem merged_ok {records : List Record} {record : Record} :
    merged records = .ok record ↔
      ∃ first rest, records = first :: rest ∧ Record.mergeAll first rest = .ok record := by
  cases records with
  | nil => simp [merged]
  | cons first rest =>
    cases joined : Record.mergeAll first rest <;> simp [merged, Except.mapError, joined]

theorem composed_of_yields {ty : Ty} (given : (body members).Yields judged ty) :
    Composed judged members ty := by
  simp only [body, Plan.yields_bind, Plan.yields_ofExcept] at given
  obtain ⟨alternatives, oneOf, given⟩ := given
  cases alternatives with
  | some nodes =>
    simp only [Plan.yields_bind, arms_yields, Plan.yields_pure] at given
    obtain ⟨arms, judged, rfl⟩ := given
    exact .alternatives oneOf judged
  | none =>
    simp only [Plan.yields_bind, Plan.yields_ofExcept] at given
    obtain ⟨excluded, anyOf, given⟩ := given
    cases excluded with
    | some nodes => exact given.elim
    | none =>
      simp only [Plan.yields_bind, Plan.yields_ofExcept] at given
      obtain ⟨conjuncts, allOf, given⟩ := given
      cases conjuncts with
      | some nodes =>
        simp only [Plan.yields_bind, memberRecords_yields, Plan.yields_ofExcept, merged_ok,
          Plan.yields_pure] at given
        obtain ⟨records, judged, record, ⟨first, rest, rfl, joined⟩, rfl⟩ := given
        exact .conjunction oneOf anyOf allOf judged joined
      | none =>
        have uncombined : Uncombined members := ⟨oneOf, anyOf, allOf⟩
        cases formed : shape members with
        | object =>
          simp only [formed, Plan.yields_bind, record_yields, Plan.yields_pure] at given
          obtain ⟨_, ⟨properties, required, fields, read, listed, judged, rfl⟩, rfl⟩ := given
          exact .object uncombined formed read listed judged
        | array =>
          simp only [formed, array_yields] at given
          obtain ⟨node, item, found, judged, rfl⟩ := given
          exact .array uncombined formed found judged
        | scalar =>
          simp only [formed, Plan.yields_bind, Plan.yields_ofExcept, Plan.yields_pure] at given
          obtain ⟨leaf, read, rfl⟩ := given
          exact .scalar uncombined formed read

theorem yields_of_composed {ty : Ty} (composed : Composed judged members ty) :
    (body members).Yields judged ty := by
  simp only [body, Plan.yields_bind, Plan.yields_ofExcept]
  cases composed with
  | alternatives oneOf judged =>
    refine ⟨_, oneOf, ?_⟩
    exact ⟨_, arms_yields.mpr judged, rfl⟩
  | conjunction oneOf anyOf allOf judged joined =>
    refine ⟨_, oneOf, _, Plan.yields_ofExcept.mpr anyOf, _, Plan.yields_ofExcept.mpr allOf, ?_⟩
    exact ⟨_, memberRecords_yields.mpr judged, _,
      Plan.yields_ofExcept.mpr (merged_ok.mpr ⟨_, _, rfl, joined⟩), rfl⟩
  | object uncombined formed read listed judged =>
    refine ⟨_, uncombined.oneOf, _, Plan.yields_ofExcept.mpr uncombined.anyOf, _,
      Plan.yields_ofExcept.mpr uncombined.allOf, ?_⟩
    simp only [formed, Plan.yields_bind, record_yields, Plan.yields_pure]
    exact ⟨_, ⟨_, _, _, read, listed, judged, rfl⟩, rfl⟩
  | array uncombined formed found judged =>
    refine ⟨_, uncombined.oneOf, _, Plan.yields_ofExcept.mpr uncombined.anyOf, _,
      Plan.yields_ofExcept.mpr uncombined.allOf, ?_⟩
    simp only [formed, array_yields]
    exact ⟨_, _, found, judged, rfl⟩
  | scalar uncombined formed read =>
    refine ⟨_, uncombined.oneOf, _, Plan.yields_ofExcept.mpr uncombined.anyOf, _,
      Plan.yields_ofExcept.mpr uncombined.allOf, ?_⟩
    simp only [formed, Plan.yields_bind, Plan.yields_ofExcept, Plan.yields_pure]
    exact ⟨_, read, rfl⟩

theorem yields_iff_composed {ty : Ty} :
    (body members).Yields judged ty ↔ Composed judged members ty :=
  ⟨composed_of_yields, yields_of_composed⟩

/-! ## What a body has compiled -/

theorem combinator_some {keyword : String} {nodes : List Json}
    (found : combinator members keyword = .ok (some nodes)) :
    members.get? keyword = some (.arr nodes) := by
  unfold combinator at found
  split at found <;> cases found
  assumption

theorem arms_visits {allowed : List String → Json → Prop} {index : Nat} {nodes : List Json}
    (parts : ∀ i node, nodes[i]? = some node → allowed ["oneOf", toString (index + i)] node) :
    (arms index nodes).Visits allowed := by
  induction nodes generalizing index with
  | nil => trivial
  | cons node rest ih =>
    refine ⟨parts 0 node rfl, fun _ _ => ⟨ih fun i node found => ?_, fun _ _ => trivial⟩⟩
    rw [Nat.add_assoc, Nat.add_comm 1]
    exact parts (i + 1) node found

theorem memberRecords_visits {allowed : List String → Json → Prop} {index : Nat}
    {nodes : List Json}
    (parts : ∀ i node, nodes[i]? = some node → allowed ["allOf", toString (index + i)] node) :
    (memberRecords index nodes).Visits allowed := by
  induction nodes generalizing index with
  | nil => trivial
  | cons node rest ih =>
    refine ⟨parts 0 node rfl, fun ty _ => ?_⟩
    cases ty with
    | record record =>
      refine ⟨ih fun i node found => ?_, fun _ _ => trivial⟩
      rw [Nat.add_assoc, Nat.add_comm 1]
      exact parts (i + 1) node found
    | _ => trivial

theorem noteBounds_visits {allowed : List String → Json → Prop} {property : Json}
    {keywords : List String} : (Object.noteBounds property keywords).Visits allowed := by
  induction keywords with
  | nil => trivial
  | cons keyword rest ih =>
    unfold Object.noteBounds
    split
    · exact ⟨trivial, fun _ _ => ih⟩
    · exact ih

theorem field_visits {allowed : List String → Json → Prop} {required : Option (List String)}
    {key : String} {property : Json} (part : allowed [] property) :
    (Object.field required key property).Visits allowed := by
  refine ⟨part, fun base _ => ?_⟩
  dsimp only
  split
  · exact ⟨noteBounds_visits, fun _ _ => ⟨Plan.visits_ofExcept, fun _ _ => trivial⟩⟩
  · exact ⟨Plan.visits_ofExcept, fun _ _ => trivial⟩

theorem fields_visits {allowed : List String → Json → Prop} {required : Option (List String)}
    {properties : Members}
    (parts : ∀ key node, (key, node) ∈ properties → allowed ["properties", key] node) :
    (Object.fields required properties).Visits allowed := by
  induction properties with
  | nil => trivial
  | cons property rest ih =>
    refine ⟨field_visits (parts _ _ List.mem_cons_self), fun _ _ => ⟨ih ?_, fun _ _ => trivial⟩⟩
    exact fun key node member => parts key node (List.mem_cons_of_mem _ member)

theorem properties_ok {properties : Members} (read : Object.properties members = .ok properties) :
    properties = [] ∨ members.get? "properties" = some (.obj properties) := by
  unfold Object.properties at read
  split at read <;> cases read
  · exact Or.inl rfl
  · exact Or.inr ‹_›

theorem Visited.part {path : List String} {node : Json} (visited : Visited members path node) :
    Part members path node := by
  cases visited with
  | alternative oneOf member => exact .alternative (combinator_some oneOf) member
  | conjunct oneOf anyOf allOf member => exact .conjunct (combinator_some allOf) member
  | property uncombined formed read listed member =>
    rcases properties_ok read with rfl | found
    · contradiction
    · exact .property found member
  | items uncombined formed found => exact .items found

theorem record_visited (uncombined : Uncombined members) (formed : shape members = .object) :
    (Object.record members).Visits (Visited members) := by
  refine ⟨Plan.visits_ofExcept, fun properties read => ⟨Plan.visits_ofExcept, fun required listed =>
    ⟨fields_visits fun key node member => ?_, fun _ _ => trivial⟩⟩⟩
  exact .property uncombined formed (Plan.yields_ofExcept.mp read) (Plan.yields_ofExcept.mp listed)
    member

theorem array_visited (uncombined : Uncombined members) (formed : shape members = .array) :
    (array members).Visits (Visited members) := by
  unfold array
  split
  · trivial
  · next found => exact ⟨.items uncombined formed found, fun _ _ => trivial⟩

theorem noteIgnored_visits {allowed : List String → Json → Prop} {keywords : List String} :
    (noteIgnored members keywords).Visits allowed := by
  induction keywords with
  | nil => trivial
  | cons keyword rest ih =>
    unfold noteIgnored
    split
    · exact ⟨trivial, fun _ _ => ih⟩
    · exact ih

/-- Which parts are compiled for a body the first keyword decides that says what the node is. -/
theorem body_visited : (body members).Visits (Visited members) := by
  refine ⟨Plan.visits_ofExcept, fun alternatives oneOf => ?_⟩
  have oneOf := Plan.yields_ofExcept.mp oneOf
  cases alternatives with
  | some nodes =>
    refine ⟨arms_visits fun i node member => ?_, fun _ _ => trivial⟩
    rw [Nat.zero_add]
    exact .alternative oneOf member
  | none =>
    refine ⟨Plan.visits_ofExcept, fun excluded anyOf => ?_⟩
    have anyOf := Plan.yields_ofExcept.mp anyOf
    cases excluded with
    | some nodes => trivial
    | none =>
      refine ⟨Plan.visits_ofExcept, fun conjuncts allOf => ?_⟩
      have allOf := Plan.yields_ofExcept.mp allOf
      cases conjuncts with
      | some nodes =>
        refine ⟨memberRecords_visits fun i node member => ?_, fun _ _ =>
          ⟨Plan.visits_ofExcept, fun _ _ => trivial⟩⟩
        rw [Nat.zero_add]
        exact .conjunct oneOf anyOf allOf member
      | none =>
        have uncombined : Uncombined members := ⟨oneOf, anyOf, allOf⟩
        dsimp only
        split
        · next formed => exact ⟨record_visited uncombined formed, fun _ _ => trivial⟩
        · next formed => exact array_visited uncombined formed
        · exact ⟨Plan.visits_ofExcept, fun _ _ => trivial⟩

/-- Only parts of a node are compiled for its body. -/
theorem body_visits : (body members).Visits (Part members) :=
  body_visited.imp fun _ _ => Visited.part

theorem exists_related {α β : Type} {related : α → β → Prop} {as : List α} {bs : List β}
    (each : List.Forall₂ related as bs) {a : α} (member : a ∈ as) : ∃ b, related a b := by
  induction each with
  | nil => contradiction
  | cons first rest ih =>
    rcases List.mem_cons.mp member with rfl | member
    · exact ⟨_, first⟩
    · exact ih member

/-- All parts that are compiled for a body have types when the body is composed. -/
theorem Composed.visited {ty : Ty} (composed : Composed judged members ty) {path : List String}
    {node : Json} (visited : Visited members path node) : ∃ ty, judged node ty := by
  have unmixed {keyword : String} {nodes : List Json}
      (found : combinator members keyword = .ok (some nodes))
      (absent : combinator members keyword = .ok none) : False := by
    rw [found] at absent
    cases absent
  cases composed with
  | alternatives oneOf each =>
    cases visited with
    | alternative oneOf' member =>
      rw [oneOf] at oneOf'
      cases oneOf'
      exact exists_related each (List.mem_of_getElem? member)
    | conjunct oneOf' => exact (unmixed oneOf oneOf').elim
    | property uncombined | items uncombined => exact (unmixed oneOf uncombined.oneOf).elim
  | conjunction oneOf anyOf allOf each =>
    cases visited with
    | alternative oneOf' => exact (unmixed oneOf' oneOf).elim
    | conjunct _ _ allOf' member =>
      rw [allOf] at allOf'
      cases allOf'
      obtain ⟨record, judged⟩ := exists_related each (List.mem_of_getElem? member)
      exact ⟨_, judged⟩
    | property uncombined | items uncombined => exact (unmixed allOf uncombined.allOf).elim
  | object uncombined formed read listed each =>
    cases visited with
    | alternative oneOf => exact (unmixed oneOf uncombined.oneOf).elim
    | conjunct _ _ allOf => exact (unmixed allOf uncombined.allOf).elim
    | property _ _ read' _ member =>
      rw [read] at read'
      cases read'
      obtain ⟨field, base, limits, judged, -⟩ := exists_related each member
      exact ⟨base, judged⟩
    | items _ formed' =>
      rw [formed] at formed'
      cases formed'
  | array uncombined formed found judged =>
    cases visited with
    | alternative oneOf => exact (unmixed oneOf uncombined.oneOf).elim
    | conjunct _ _ allOf => exact (unmixed allOf uncombined.allOf).elim
    | property _ formed' =>
      rw [formed] at formed'
      cases formed'
    | items _ _ found' =>
      rw [found] at found'
      cases found'
      exact ⟨_, judged⟩
  | scalar uncombined formed =>
    cases visited with
    | alternative oneOf => exact (unmixed oneOf uncombined.oneOf).elim
    | conjunct _ _ allOf => exact (unmixed allOf uncombined.allOf).elim
    | property _ formed' | items _ formed' =>
      rw [formed] at formed'
      cases formed'

end SchemaTypes.Node
