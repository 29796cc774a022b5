import SchemaTypes.Proofs.Whereabouts

/-! Which errors a computation can end with, from a position and with a scope of some kind. The kind
has to last while slots move forward, so that it is still there when the next computation starts.
Beside references, nothing in a node makes a fault of a reference. -/
namespace SchemaTypes

/-- The reference that a fault is about. -/
def Fault.reference? : Fault → Option String
  | .unresolvedReference reference => some reference
  | .cyclicReference reference => some reference
  | _ => none

/-- The reference that an error is about, and where the error says that it stands. -/
def CompileError.reference? : CompileError → Option (String × Position)
  | .unresolvedReference reference position => some (reference, position)
  | .cyclicReference reference position => some (reference, position)
  | _ => none

theorem Fault.error_reference? (fault : Fault) (position : Position) :
    (fault.error position).reference? = fault.reference?.map (·, position) := by
  cases fault <;> rfl

/-! ## Faults of nodes -/

/-- A reading fails for no reference. -/
def Except.NoReference {α : Type} (outcome : Except Fault α) : Prop :=
  ∀ fault, outcome = .error fault → fault.reference? = none

/-- A plan has no fault that is about a reference. -/
def Plan.NoReference : {α : Type} → Plan α → Prop
  | _, .done _ => True
  | _, .fail fault => fault.reference? = none
  | _, .note _ => True
  | _, .visit _ => True
  | _, .under _ plan => plan.NoReference
  | _, .andThen first next => first.NoReference ∧ ∀ a, (next a).NoReference

namespace Except.NoReference

variable {α β : Type} {outcome : Except Fault α}

@[simp] theorem ok (a : α) : NoReference (.ok a) := by rintro _ ⟨⟩

@[simp] theorem error_iff {fault : Fault} :
    NoReference (.error fault : Except Fault α) ↔ fault.reference? = none := by
  simp [NoReference]

theorem bind {next : α → Except Fault β} (first : NoReference outcome)
    (rest : ∀ a, NoReference (next a)) : NoReference (outcome >>= next) := by
  intro fault failed
  rcases Except.error_of_bind failed with failed | ⟨a, -, failed⟩
  · exact first fault failed
  · exact rest a fault failed

theorem plan (reads : NoReference outcome) : (Plan.ofExcept outcome).NoReference := by
  cases outcome with
  | ok a => trivial
  | error fault => exact reads fault rfl

end Except.NoReference

namespace Node

variable {members : Members}

theorem combinator_noReference {keyword : String} : Except.NoReference (combinator members keyword) := by
  unfold combinator
  split <;> simp [Fault.reference?]

theorem properties_noReference : Except.NoReference (Object.properties members) := by
  unfold Object.properties
  split <;> simp [Fault.reference?]

theorem requiredNames_noReference : Except.NoReference (Object.requiredNames members) := by
  unfold Object.requiredNames
  split
  · exact .ok _
  · split <;> simp [Fault.reference?]
  · simp [Fault.reference?]

theorem limit_noReference {base : Ty} {property : Json} {keyword : String} :
    Except.NoReference (Object.limit base property keyword) := by
  unfold Object.limit Object.length
  split
  · split
    · exact .ok _
    · split <;> simp [Fault.reference?]
  · exact .ok _

theorem constraints_noReference {property : Json} {base : Ty} :
    Except.NoReference (Object.constraints property base) := by
  refine limit_noReference.bind fun _ => limit_noReference.bind fun _ => .bind ?_ fun _ => .ok _
  unfold Object.allowedValues
  split <;> simp [Fault.reference?]

theorem merged_noReference {records : List Record} : Except.NoReference (merged records) := by
  cases records with
  | nil => simp [merged, Fault.reference?]
  | cons first rest =>
    intro fault failed
    cases joined : Record.mergeAll first rest with
    | ok record => simp [merged, joined, Except.mapError] at failed
    | error conflict =>
      simp only [merged, joined, Except.mapError, Except.error.injEq] at failed
      rw [← failed]
      rfl

theorem leaf_noReference : Except.NoReference (Scalar.leaf members) := by
  have named : Except.NoReference (Scalar.typeName members) := by
    unfold Scalar.typeName
    split <;> simp [Fault.reference?]
  have formatted : Except.NoReference (Scalar.formatName members) := by
    unfold Scalar.formatName
    split <;> simp [Fault.reference?]
  refine named.bind fun type => ?_
  split
  · split <;> simp [Fault.reference?]
  · refine formatted.bind fun format => ?_
    split <;> simp [Fault.reference?]

theorem entries_noReference : Except.NoReference (Definitions.entries members) := by
  have blocks (keyword : String) : Except.NoReference (Definitions.block members keyword) := by
    unfold Definitions.block
    split <;> simp [Fault.reference?]
  intro fault failed
  cases first : Definitions.block members "definitions" with
  | error earlier =>
    simp only [Definitions.entries, Definitions.keywords, List.mapM_cons, first] at failed
    cases failed
    exact blocks _ _ first
  | ok one =>
    cases second : Definitions.block members "$defs" with
    | error earlier =>
      simp only [Definitions.entries, Definitions.keywords, List.mapM_cons, first, second] at failed
      cases failed
      exact blocks _ _ second
    | ok two =>
      simp only [Definitions.entries, Definitions.keywords, List.mapM_cons, List.mapM_nil, first,
        second] at failed
      cases failed

theorem noteIgnored_noReference {keywords : List String} :
    (noteIgnored members keywords).NoReference := by
  induction keywords with
  | nil => trivial
  | cons keyword rest ih =>
    unfold noteIgnored
    split
    · exact ⟨trivial, fun _ => ih⟩
    · exact ih

theorem noteBounds_noReference {property : Json} {keywords : List String} :
    (Object.noteBounds property keywords).NoReference := by
  induction keywords with
  | nil => trivial
  | cons keyword rest ih =>
    unfold Object.noteBounds
    split
    · exact ⟨trivial, fun _ => ih⟩
    · exact ih

theorem arms_noReference {index : Nat} {nodes : List Json} : (arms index nodes).NoReference := by
  induction nodes generalizing index with
  | nil => trivial
  | cons node rest ih => exact ⟨trivial, fun _ => ⟨ih, fun _ => trivial⟩⟩

theorem memberRecords_noReference {index : Nat} {nodes : List Json} :
    (memberRecords index nodes).NoReference := by
  induction nodes generalizing index with
  | nil => trivial
  | cons node rest ih =>
    refine ⟨trivial, fun ty => ?_⟩
    cases ty with
    | record record => exact ⟨ih, fun _ => trivial⟩
    | _ => exact rfl

theorem field_noReference {required : Option (List String)} {key : String} {property : Json} :
    (Object.field required key property).NoReference := by
  refine ⟨trivial, fun base => ?_⟩
  dsimp only
  split
  · exact ⟨noteBounds_noReference, fun _ => ⟨constraints_noReference.plan, fun _ => trivial⟩⟩
  · exact ⟨constraints_noReference.plan, fun _ => trivial⟩

theorem fields_noReference {required : Option (List String)} {properties : Members} :
    (Object.fields required properties).NoReference := by
  induction properties with
  | nil => trivial
  | cons property rest ih => exact ⟨field_noReference, fun _ => ⟨ih, fun _ => trivial⟩⟩

theorem array_noReference : (array members).NoReference := by
  unfold array
  split
  · exact rfl
  · exact ⟨trivial, fun _ => trivial⟩

theorem body_noReference : (body members).NoReference := by
  refine ⟨combinator_noReference.plan, fun alternatives => ?_⟩
  cases alternatives with
  | some nodes => exact ⟨arms_noReference, fun _ => trivial⟩
  | none =>
    refine ⟨combinator_noReference.plan, fun excluded => ?_⟩
    cases excluded with
    | some nodes => exact rfl
    | none =>
      refine ⟨combinator_noReference.plan, fun conjuncts => ?_⟩
      cases conjuncts with
      | some nodes =>
        exact ⟨memberRecords_noReference, fun _ => ⟨merged_noReference.plan, fun _ => trivial⟩⟩
      | none =>
        dsimp only
        split
        · exact ⟨⟨properties_noReference.plan, fun _ => ⟨requiredNames_noReference.plan, fun _ =>
            ⟨fields_noReference, fun _ => trivial⟩⟩⟩, fun _ => trivial⟩
        · exact array_noReference
        · exact ⟨leaf_noReference.plan, fun _ => trivial⟩

end Node

/-! ## Computations -/

/-- What holds of a scope goes on to hold while slots only move forward. -/
def Scope.Lasting (kept : Scope → Prop) : Prop :=
  ∀ events before after, Scope.Settles false events before after → kept before → kept after

namespace Compile

variable {α β : Type} {allowed : CompileError → Prop} {position : Position} {kept : Scope → Prop}
  {body : Compile α}

def FailsFrom (allowed : CompileError → Prop) (body : Compile α) (state : State) : Prop :=
  ∀ error, (body state).1 = .error error → allowed error

/-- From a position, and with a scope of one kind, a computation fails with allowed errors only. -/
def FailsIn (allowed : CompileError → Prop) (position : Position) (kept : Scope → Prop)
    (body : Compile α) : Prop :=
  ∀ state, state.position = position → kept state.scope → body.FailsFrom allowed state

theorem FailsFrom.bind {state : State} {next : α → Compile β} (first : body.FailsFrom allowed state)
    (rest : ∀ a after, body state = (.ok a, after) → (next a).FailsFrom allowed after) :
    (body >>= next).FailsFrom allowed state := by
  unfold FailsFrom at first ⊢
  rcases bind_ends body next state with ⟨early, middle, ended, whole⟩ | ⟨a, middle, ended, whole⟩
  · rw [whole]
    rintro _ ⟨⟩
    exact first early (congrArg Prod.fst ended)
  · rw [whole]
    exact rest a middle ended

namespace FailsIn

theorem pure (a : α) : (Pure.pure a : Compile α).FailsIn allowed position kept := by
  rintro _ _ _ _ ⟨⟩

theorem raise {error : CompileError} (fits : allowed error) :
    (Compile.raise error : Compile α).FailsIn allowed position kept := by
  rintro _ _ _ _ ⟨⟩
  exact fits

theorem fail {fault : Fault} (fits : allowed (fault.error position)) :
    (Compile.fail fault : Compile α).FailsIn allowed position kept := by
  rintro _ rfl _ _ ⟨⟩
  exact fits

theorem ofExcept {outcome : Except Fault α}
    (fits : ∀ fault, outcome = .error fault → allowed (fault.error position)) :
    (Compile.ofExcept outcome).FailsIn allowed position kept := by
  cases outcome with
  | ok a => exact pure a
  | error fault => exact fail (fits fault rfl)

theorem note (event : Position → Event) :
    (Compile.note event).FailsIn allowed position kept := by
  rintro _ _ _ _ ⟨⟩

theorem imp {kept' : Scope → Prop} (fails : body.FailsIn allowed position kept)
    (weaker : ∀ scope, kept' scope → kept scope) : body.FailsIn allowed position kept' :=
  fun state here held => fails state here (weaker _ held)

/-- A computation that ends well leaves the position, and what lasts of the scope, to the next. -/
theorem bind {next : α → Compile β} (lasting : Scope.Lasting kept) (restores : body.Restores)
    (first : body.FailsIn allowed position kept)
    (rest : ∀ a, (∃ state after, body state = (.ok a, after)) →
      (next a).FailsIn allowed position kept) :
    (body >>= next).FailsIn allowed position kept := by
  intro state here held
  refine (first state here held).bind fun a middle ended => ?_
  obtain ⟨events, restored⟩ := restores state
  rw [ended] at restored
  exact rest a ⟨state, middle, ended⟩ middle (restored.position.trans here)
    (lasting events _ _ restored.scope held)

theorem after_note {event : Position → Event} {next : Unit → Compile α}
    (rest : (next ()).FailsIn allowed position kept) :
    (Compile.note event >>= next).FailsIn allowed position kept :=
  fun _ here held => rest _ here held

theorem read_position {next : Position → Compile α}
    (rest : (next position).FailsIn allowed position kept) :
    (Compile.read (·.position) >>= next).FailsIn allowed position kept := by
  rintro _ rfl held
  exact rest _ rfl held

theorem under {segments : List String}
    (inside : body.FailsIn allowed (position.below segments) kept) :
    (Compile.under segments body).FailsIn allowed position kept := by
  rintro state rfl held
  exact inside { state with position := state.position.below segments } rfl held

theorem within {other : Position} (inside : body.FailsIn allowed other kept) :
    (Compile.within other body).FailsIn allowed position kept :=
  fun state _ held => inside { state with position := other } rfl held

theorem opening {location : Location} (inside : body.FailsIn allowed position kept) :
    (Compile.opening location body).FailsIn allowed position kept :=
  fun state here held =>
    inside { state with opened := location.key :: state.opened } here held

theorem withLayer {slots : List (String × Slot)} {inner : Scope → Prop}
    (enters : ∀ number scope, kept scope → inner (⟨number, slots⟩ :: scope))
    (inside : body.FailsIn allowed position inner) :
    (Compile.withLayer slots body).FailsIn allowed position kept :=
  fun state here held => inside (state.entering slots) here (enters _ _ held)

end FailsIn

end Compile

variable {allowed : CompileError → Prop} {position : Position} {kept : Scope → Prop}
  {compile : NodeCompiler}

/-- Errors about no reference are allowed. -/
abbrev CompileError.AllowsOthers (allowed : CompileError → Prop) : Prop :=
  ∀ error, error.reference? = none → allowed error

theorem CompileError.AllowsOthers.fault (others : AllowsOthers allowed) {fault : Fault}
    (other : fault.reference? = none) : allowed (fault.error position) := by
  apply others
  rw [Fault.error_reference?, other]
  rfl

/-- A plan fails as the nodes do that it visits, and with faults that are about no reference. -/
theorem Plan.run_fails {α : Type} {plan : Plan α} {visited : List String → Json → Prop}
    (lasting : Scope.Lasting kept) (others : CompileError.AllowsOthers allowed)
    (restores : compile.Restores) (visits : plan.Visits visited) (plain : plan.NoReference)
    (fails : ∀ path node, visited path node →
      (compile node).FailsIn allowed (position.below path) kept) :
    (plan.run compile).FailsIn allowed position kept := by
  induction plan generalizing visited position with
  | done a => exact .pure a
  | fail fault => exact .fail (others.fault plain)
  | note remark => exact .note _
  | visit node =>
    have here := fails [] node visits
    rwa [Position.below_nil] at here
  | under segments plan ih =>
    refine .under (ih visits plain fun path node there => ?_)
    rw [Position.below_below]
    exact fails _ node there
  | andThen first next firstIH nextIH =>
    refine .bind lasting (run_restores restores first) (firstIH visits.1 plain.1 fails) ?_
    rintro a ⟨state, after, ran⟩
    exact nextIH a (visits.2 a (run_canGive ran)) (plain.2 a) fails

namespace Definitions

variable {name reference : String}

/-- Wherever a name is found with a body that waits, that body fails only as allowed. -/
def Demands (allowed : CompileError → Prop) (position : Position) (kept : Scope → Prop)
    (compile : NodeCompiler) (name : String) : Prop :=
  ∀ state, state.position = position → kept state.scope →
    ∀ {hidden outer : Scope} {layer : Layer} {definition : Definition},
      state.scope = hidden ++ layer :: outer →
      (∀ inner ∈ hidden, inner.slots.lookup name = none) →
      layer.slots.lookup name = some (.pending definition) →
      (compile definition.node).FailsFrom allowed (demanding state name definition layer outer)

/-- A name fails when it is found nowhere, while its own body is compiled, or as its body does. -/
theorem resolve_fails (demands : Demands allowed position kept compile name)
    (unknown : ∀ scope, kept scope → scope.find? name = none →
      allowed (.unresolvedReference reference position))
    (compiling : ∀ scope binding, kept scope → scope.find? name = some binding →
      binding.slot = .compiling → allowed (.cyclicReference reference position)) :
    (resolve compile name reference).FailsIn allowed position kept := by
  rintro state rfl held
  cases found : state.scope.find? name with
  | none =>
    unfold Compile.FailsFrom
    rw [resolve_of_none found]
    rintro _ ⟨⟩
    exact unknown _ held found
  | some binding =>
    unfold Compile.FailsFrom
    rw [resolve_of_some found]
    refine Compile.FailsFrom.bind ?_ fun ty after _ => ?_
    · unfold settle
      split
      · rintro _ ⟨⟩
      · next slot =>
        rintro _ ⟨⟩
        exact compiling _ _ held found slot
      · next definition declared =>
        obtain ⟨hidden, layer, outer, parts, level, -, slot, shadowless⟩ := Scope.located found
        rw [declared] at slot
        rw [level]
        intro error failed
        rw [(demand_ends parts).1] at failed
        exact demands state rfl held parts shadowless slot error failed
    · rintro _ ⟨⟩

/-- The names of some entries stand in the innermost layer, and none of them is being compiled. -/
def Declared (entries : List Entry) (scope : Scope) : Prop :=
  ∃ layer rest, scope = layer :: rest ∧
    ∀ entry ∈ entries, ∃ slot, layer.slots.lookup entry.name = some slot ∧ slot ≠ .compiling

theorem declared_lasting (entries : List Entry) : Scope.Lasting (Declared entries) := by
  rintro events _ after settled ⟨layer, rest, rfl, each⟩
  cases settled with
  | @cons _ layer' _ rest' head tail =>
    refine ⟨layer', rest', rfl, fun entry member => ?_⟩
    obtain ⟨slot, found, ready⟩ := each entry member
    obtain ⟨slot', found', moved⟩ := head.slots.lookup found
    refine ⟨slot', found', ?_⟩
    cases moved with
    | same => exact ready
    | filled => exact Slot.noConfusion
    | broken failed => cases failed

theorem declared_slots {position : Position} {entries : List Entry} (number : Nat) (scope : Scope) :
    Declared entries (⟨number, slots position entries⟩ :: scope) := by
  refine ⟨_, _, rfl, fun entry member => ?_⟩
  have named : entry.name ∈ Keyed.keys (slots position entries) :=
    Keyed.mem_keys_ofPairs (List.mem_map.mpr ⟨_, List.mem_map_of_mem member, rfl⟩)
  obtain ⟨slot, found⟩ := Keyed.exists_lookup named
  obtain ⟨other, -, -, rfl⟩ := mem_slots (Keyed.mem_of_lookup found)
  exact ⟨_, found, Slot.noConfusion⟩

/-- The names that a node declares are found, and none is being compiled; so nothing fails but what
their bodies do. -/
theorem resolveAll_fails (lasting : Scope.Lasting kept) (restores : compile.Restores)
    {entries : List Entry}
    (demands : ∀ entry ∈ entries, Demands allowed position kept compile entry.name)
    (declared : ∀ scope, kept scope → Declared entries scope) :
    (resolveAll compile entries).FailsIn allowed position kept := by
  have first (entry : Entry) (member : entry ∈ entries) :
      (resolve compile entry.name entry.reference).FailsIn allowed position kept := by
    have found (scope : Scope) (held : kept scope) : ∃ binding,
        scope.find? entry.name = some binding ∧ binding.slot ≠ .compiling := by
      obtain ⟨layer, rest, rfl, each⟩ := declared scope held
      obtain ⟨slot, found, ready⟩ := each entry member
      exact ⟨_, Scope.find?_cons_of_lookup found, ready⟩
    refine resolve_fails (demands entry member) (fun scope held absent => ?_)
      fun scope binding held bound compiling => ?_
    · obtain ⟨binding, bound, -⟩ := found scope held
      rw [absent] at bound
      cases bound
    · obtain ⟨binding', bound', ready⟩ := found scope held
      rw [bound] at bound'
      cases bound'
      exact (ready compiling).elim
  have each (some : List Entry) (within : some ⊆ entries) :
      (resolveAll compile some).FailsIn allowed position kept := by
    induction some with
    | nil => exact .pure ()
    | cons entry rest ih =>
      obtain ⟨member, others⟩ := List.cons_subset.mp within
      exact .bind lasting (resolve_restores restores _ _) (first entry member) fun _ _ => ih others
  exact each entries (List.Subset.refl _)

/-- With the definitions of a node in scope, their bodies and what is inside of the node fail as
allowed. -/
theorem within_fails {α : Type} {members : Members} {body : Compile α} {inner : List Entry → Scope → Prop}
    (others : CompileError.AllowsOthers allowed) (restores : compile.Restores)
    (lasting : Scope.Lasting kept) (lasts : ∀ entries, Scope.Lasting (inner entries))
    (plain : ∀ scope, kept scope → inner [] scope)
    (enters : ∀ entries, Definitions.entries members = .ok entries → entries ≠ [] →
      ∀ number scope, kept scope → inner entries (⟨number, slots position entries⟩ :: scope))
    (demands : ∀ entries, Definitions.entries members = .ok entries → ∀ entry ∈ entries,
      Demands allowed position (inner entries) compile entry.name)
    (inside : ∀ entries, Definitions.entries members = .ok entries →
      body.FailsIn allowed position (inner entries)) :
    (within compile members body).FailsIn allowed position kept := by
  refine .bind lasting (.ofExcept _)
    (.ofExcept fun fault failed => others.fault (Node.entries_noReference fault failed)) ?_
  rintro entries ⟨state, after, ran⟩
  have read := (Compile.ofExcept_ok ran).1
  split
  · next empty =>
    rw [List.isEmpty_iff.mp empty] at read
    exact (inside [] read).imp plain
  · next full =>
    refine .after_note (.read_position ?_)
    have entered (number : Nat) (scope : Scope) (held : kept scope) :
        inner entries (⟨number, slots position entries⟩ :: scope) ∧
          Declared entries (⟨number, slots position entries⟩ :: scope) :=
      ⟨enters entries read (by simpa using full) number scope held, declared_slots number scope⟩
    have both : Scope.Lasting fun scope => inner entries scope ∧ Declared entries scope :=
      fun events before after settled held => ⟨lasts entries events _ _ settled held.1,
        declared_lasting entries events _ _ settled held.2⟩
    refine .withLayer entered (.bind both (resolveAll_restores restores entries) ?_ fun _ _ => ?_)
    · refine resolveAll_fails both restores (fun entry member state here held => ?_)
        fun scope held => held.2
      exact demands entries read entry member state here held.1
    · exact (inside entries read).imp fun scope held => held.1

end Definitions

end SchemaTypes
