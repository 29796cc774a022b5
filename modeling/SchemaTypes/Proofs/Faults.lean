import SchemaTypes.Proofs.Body

/-! Where a plan can fail. What is wrong with a node is said of the node itself, or of one of its
parts. -/
namespace SchemaTypes

namespace Plan

/-- Every fault that a plan can have is at an allowed path below the current position. -/
def FailsAt (allowed : List String → Prop) : {α : Type} → Plan α → Prop
  | _, .done _ => True
  | _, .fail _ => allowed []
  | _, .note _ => True
  | _, .visit _ => True
  | _, .under segments plan => plan.FailsAt fun path => allowed (segments ++ path)
  | _, .andThen first next =>
    first.FailsAt allowed ∧ ∀ a, first.CanGive a → (next a).FailsAt allowed

variable {α : Type} {allowed : List String → Prop}

theorem failsAt_ofExcept {outcome : Except Fault α} (here : allowed []) :
    (ofExcept outcome).FailsAt allowed := by
  cases outcome with
  | ok a => trivial
  | error fault => exact here

end Plan

namespace Node

variable {members : Members} {allowed : List String → Prop}

theorem noteIgnored_failsAt {keywords : List String} :
    (noteIgnored members keywords).FailsAt allowed := by
  induction keywords with
  | nil => trivial
  | cons keyword rest ih =>
    unfold noteIgnored
    split
    · exact ⟨trivial, fun _ _ => ih⟩
    · exact ih

theorem noteBounds_failsAt {property : Json} {keywords : List String} :
    (Object.noteBounds property keywords).FailsAt allowed := by
  induction keywords with
  | nil => trivial
  | cons keyword rest ih =>
    unfold Object.noteBounds
    split
    · exact ⟨trivial, fun _ _ => ih⟩
    · exact ih

theorem arms_failsAt {index : Nat} {nodes : List Json} : (arms index nodes).FailsAt allowed := by
  induction nodes generalizing index with
  | nil => trivial
  | cons node rest ih => exact ⟨trivial, fun _ _ => ⟨ih, fun _ _ => trivial⟩⟩

theorem memberRecords_failsAt {index : Nat} {nodes : List Json} (here : allowed []) :
    (memberRecords index nodes).FailsAt allowed := by
  induction nodes generalizing index with
  | nil => trivial
  | cons node rest ih =>
    refine ⟨trivial, fun ty _ => ?_⟩
    cases ty with
    | record record => exact ⟨ih, fun _ _ => trivial⟩
    | _ => exact here

theorem field_failsAt {required : Option (List String)} {key : String} {property : Json}
    (here : allowed []) : (Object.field required key property).FailsAt allowed := by
  refine ⟨trivial, fun base _ => ?_⟩
  dsimp only
  split
  · exact ⟨noteBounds_failsAt, fun _ _ => ⟨Plan.failsAt_ofExcept here, fun _ _ => trivial⟩⟩
  · exact ⟨Plan.failsAt_ofExcept here, fun _ _ => trivial⟩

theorem fields_failsAt {required : Option (List String)} {properties : Members}
    (parts : ∀ key node, (key, node) ∈ properties → allowed ["properties", key]) :
    (Object.fields required properties).FailsAt allowed := by
  induction properties with
  | nil => trivial
  | cons property rest ih =>
    refine ⟨field_failsAt (parts _ _ List.mem_cons_self), fun _ _ => ⟨ih ?_, fun _ _ => trivial⟩⟩
    exact fun key node member => parts key node (List.mem_cons_of_mem _ member)

/-- A node can be faulted itself, or one of its parts. -/
def Faulted (members : Members) (path : List String) : Prop :=
  path = [] ∨ ∃ node, Part members path node

theorem record_failsAt : (Object.record members).FailsAt (Faulted members) := by
  refine ⟨Plan.failsAt_ofExcept (.inl rfl), fun properties read =>
    ⟨Plan.failsAt_ofExcept (.inl rfl), fun required _ => ⟨fields_failsAt ?_, fun _ _ => trivial⟩⟩⟩
  intro key node member
  rcases properties_ok (Plan.yields_ofExcept.mp read) with rfl | found
  · contradiction
  · exact .inr ⟨node, .property found member⟩

theorem array_failsAt : (array members).FailsAt (Faulted members) := by
  unfold array
  split
  · exact .inl rfl
  · exact ⟨trivial, fun _ _ => trivial⟩

theorem body_failsAt : (body members).FailsAt (Faulted members) := by
  refine ⟨Plan.failsAt_ofExcept (.inl rfl), fun alternatives _ => ?_⟩
  cases alternatives with
  | some nodes => exact ⟨arms_failsAt, fun _ _ => trivial⟩
  | none =>
    refine ⟨Plan.failsAt_ofExcept (.inl rfl), fun excluded _ => ?_⟩
    cases excluded with
    | some nodes => exact .inl rfl
    | none =>
      refine ⟨Plan.failsAt_ofExcept (.inl rfl), fun conjuncts _ => ?_⟩
      cases conjuncts with
      | some nodes =>
        exact ⟨memberRecords_failsAt (.inl rfl), fun _ _ =>
          ⟨Plan.failsAt_ofExcept (.inl rfl), fun _ _ => trivial⟩⟩
      | none =>
        dsimp only
        split
        · exact ⟨record_failsAt, fun _ _ => trivial⟩
        · exact array_failsAt
        · exact ⟨Plan.failsAt_ofExcept (.inl rfl), fun _ _ => trivial⟩

end Node

end SchemaTypes
