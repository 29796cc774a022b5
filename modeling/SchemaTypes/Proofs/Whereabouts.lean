import SchemaTypes.Proofs.Budget
import SchemaTypes.Proofs.Faults
import SchemaTypes.Proofs.Path
import SchemaTypes.Proofs.Results

/-! Where a compilation stands. Every node is compiled at the position that it has in its document,
and every error but that of a loader names a position at which the document holds something. -/
namespace SchemaTypes

/-- Documents by location. Nothing but a schema given inline is without one. -/
abbrev Documents : Type := Option Location → Option Json

/-- The documents that a compilation can come to. -/
def Source.documents (loader : Loader) : Source → Documents
  | _, some place => (loader.load place).toOption
  | .inline schema, none => some schema
  | .location _, none => none

def Documents.Distinct (documents : Documents) : Prop :=
  ∀ location document, documents location = some document → document.Distinct

namespace Position

/-- A document holds a value at a position. -/
def Holds (documents : Documents) (position : Position) (value : Json) : Prop :=
  ∃ document, documents position.document = some document ∧
    document.at? position.path = some value

def Occupied (documents : Documents) (position : Position) : Prop :=
  ∃ value, position.Holds documents value

/-- The position at the end of a path that starts at another one. -/
def below (position : Position) (path : List String) : Position :=
  { position with path := position.path ++ path }

@[simp] theorem below_nil (position : Position) : position.below [] = position := by
  simp [below]

theorem below_below (position : Position) (first second : List String) :
    (position.below first).below second = position.below (first ++ second) := by
  simp [below]

end Position

/-- Where something is wrong. Failures to load a document have no position. -/
def CompileError.position? : CompileError → Option Position
  | .unresolvedReference _ position => some position
  | .cyclicReference _ position => some position
  | .unsupportedSchema position _ => some position
  | .unsupportedFormat _ _ position => some position
  | .notImplemented _ position => some position
  | .missingField _ position => some position
  | .fieldConflict _ position => some position
  | .load _ => none
  | .exhausted => none

theorem Fault.error_position? (fault : Fault) (position : Position) :
    (fault.error position).position? = some position := by
  cases fault <;> rfl

/-! ## What has to stand where it says -/

/-- A node that is compiled stands at the position of its event. -/
def Event.Placed (documents : Documents) : Event → Prop
  | .visited position node => position.Holds documents node
  | _ => True

/-- A body that waits stands at the position that is kept with it. -/
def Slot.Placed (documents : Documents) : Slot → Prop
  | .pending definition => definition.position.Holds documents definition.node
  | _ => True

def CompileError.Placed (documents : Documents) (error : CompileError) : Prop :=
  ∀ position, error.position? = some position → position.Occupied documents

structure State.Placed (documents : Documents) (state : State) : Prop where
  journal : ∀ event ∈ state.journal, event.Placed documents
  scope : state.scope.Each (Slot.Placed documents)

/-- A computation leaves all in place, and fails where there is something. -/
def Compile.StaysFrom {α : Type} (documents : Documents) (body : Compile α)
    (state : State) : Prop :=
  (body state).2.Placed documents ∧
    ∀ error, (body state).1 = .error error → error.Placed documents

/-- From a position, a computation compiles nodes and fails only where it says. -/
def Compile.Stays {α : Type} (documents : Documents) (position : Position)
    (body : Compile α) : Prop :=
  ∀ state, state.position = position → state.Placed documents → body.StaysFrom documents state

/-- A compiler that keeps track of positions, for nodes that stand where it starts. -/
def NodeCompiler.Stays (documents : Documents) (compile : NodeCompiler) : Prop :=
  ∀ node position, position.Holds documents node → (compile node).Stays documents position

/-! ## Positions of parts -/

theorem Node.Part.at? {members : Members} {path : List String} {node : Json}
    (distinct : (Json.obj members).Distinct) (part : Part members path node) :
    (Json.obj members).at? path = some node := by
  cases part with
  | alternative found member | conjunct found member =>
    rw [Json.at?_cons, show (Json.obj members).child? _ = some _ from found, Option.bind_some,
      Json.at?_singleton, Json.child?_item member]
  | property found member =>
    rw [Json.at?_cons, show (Json.obj members).child? _ = some _ from found, Option.bind_some,
      Json.at?_singleton]
    exact Keyed.lookup_of_mem (distinct.get? found).keys member
  | items found =>
    rw [Json.at?_singleton]
    exact found

theorem Definitions.Entry.at? {members : Members} {entries : List Definitions.Entry}
    {entry : Definitions.Entry} (distinct : (Json.obj members).Distinct)
    (read : Definitions.entries members = .ok entries) (member : entry ∈ entries) :
    (Json.obj members).at? [entry.keyword, entry.name] = some entry.node := by
  obtain ⟨-, definitions, found, inside⟩ := Definitions.mem_entries read member
  rw [Json.at?_cons, show (Json.obj members).child? _ = some _ from found, Option.bind_some,
    Json.at?_singleton]
  exact Keyed.lookup_of_mem (distinct.get? found).keys inside

namespace Position.Holds

variable {documents : Documents} {position : Position} {value part : Json} {path : List String}

theorem occupied (holds : position.Holds documents value) : position.Occupied documents :=
  ⟨value, holds⟩

theorem below (holds : position.Holds documents value) (leads : value.at? path = some part) :
    (position.below path).Holds documents part := by
  obtain ⟨document, found, there⟩ := holds
  refine ⟨document, found, ?_⟩
  simp only [Position.below, Json.at?_append, there]
  exact leads

theorem distinct (every : documents.Distinct) (holds : position.Holds documents value) :
    value.Distinct := by
  obtain ⟨document, found, there⟩ := holds
  exact Json.at?_keeps (fun _ _ _ found distinct => distinct.child? found) there
    (every _ _ found)

end Position.Holds

/-! ## Computations that keep track of positions -/

variable {documents : Documents} {position : Position}

theorem Compile.StaysFrom.bind {α β : Type} {state : State} {body : Compile α}
    {next : α → Compile β} (first : body.StaysFrom documents state)
    (rest : ∀ a after, body state = (.ok a, after) → after.Placed documents →
      (next a).StaysFrom documents after) : (body >>= next).StaysFrom documents state := by
  unfold StaysFrom at first ⊢
  rcases bind_ends body next state with ⟨error, middle, ended, whole⟩ | ⟨a, middle, ended, whole⟩
  · rw [ended] at first
    rw [whole]
    refine ⟨first.1, ?_⟩
    rintro _ ⟨⟩
    exact first.2 error rfl
  · rw [ended] at first
    rw [whole]
    exact rest a middle ended first.1

namespace Compile.Stays

variable {α β : Type} {body : Compile α}

theorem pure (a : α) : (Pure.pure a : Compile α).Stays documents position :=
  fun _ _ placed => ⟨placed, fun _ ended => nomatch ended⟩

theorem raise {error : CompileError} (nowhere : error.position? = none) :
    (Compile.raise error : Compile α).Stays documents position := by
  refine fun _ _ placed => ⟨placed, fun _ ended => ?_⟩
  cases ended
  intro there same
  rw [nowhere] at same
  cases same

theorem fail (occupied : position.Occupied documents) (fault : Fault) :
    (Compile.fail fault : Compile α).Stays documents position := by
  refine fun state here placed => ⟨placed, fun _ ended => ?_⟩
  cases ended
  intro there same
  rw [Fault.error_position?] at same
  cases same
  exact here ▸ occupied

theorem ofExcept (occupied : position.Occupied documents) (outcome : Except Fault α) :
    (Compile.ofExcept outcome).Stays documents position := by
  cases outcome with
  | ok a => exact pure a
  | error fault => exact fail occupied fault

theorem note {event : Position → Event} (fits : (event position).Placed documents) :
    (Compile.note event).Stays documents position := by
  refine fun state here placed => ⟨⟨?_, placed.scope⟩, fun _ ended => nomatch ended⟩
  exact List.forall_mem_cons.mpr ⟨here ▸ fits, placed.journal⟩

/-- A computation that puts the position back is followed by the next one at the same place. -/
theorem bind {next : α → Compile β} (restores : body.Restores)
    (first : body.Stays documents position)
    (rest : ∀ a, (∃ state after, body state = (.ok a, after)) →
      (next a).Stays documents position) : (body >>= next).Stays documents position := by
  intro state here placed
  refine (first state here placed).bind fun a middle ended between => ?_
  obtain ⟨events, kept⟩ := restores state
  rw [ended] at kept
  exact rest a ⟨state, middle, ended⟩ middle (kept.position.trans here) between

theorem read {look : State → α} {next : α → Compile β}
    (rest : ∀ a, (next a).Stays documents position) :
    (Compile.read look >>= next).Stays documents position :=
  fun state here placed => rest (look state) state here placed

theorem read_position {next : Position → Compile α} (rest : (next position).Stays documents position) :
    (Compile.read (·.position) >>= next).Stays documents position := by
  intro state here placed
  subst here
  exact rest state rfl placed

theorem under {segments : List String} (inside : body.Stays documents (position.below segments)) :
    (Compile.under segments body).Stays documents position := by
  intro state here placed
  obtain ⟨after, fails⟩ := inside { state with position := state.position.below segments }
    (congrArg (·.below segments) here) ⟨placed.journal, placed.scope⟩
  exact ⟨⟨after.journal, after.scope⟩, fails⟩

theorem within {other : Position} (inside : body.Stays documents other) :
    (Compile.within other body).Stays documents position := by
  intro state _ placed
  obtain ⟨after, fails⟩ := inside { state with position := other } rfl ⟨placed.journal, placed.scope⟩
  exact ⟨⟨after.journal, after.scope⟩, fails⟩

theorem opening (location : Location) (inside : body.Stays documents position) :
    (Compile.opening location body).Stays documents position := by
  intro state here placed
  obtain ⟨after, fails⟩ := inside { state with opened := location.key :: state.opened } here
    ⟨placed.journal, placed.scope⟩
  exact ⟨⟨after.journal, after.scope⟩, fails⟩

theorem withLayer {slots : List (String × Slot)} (fits : ∀ slot ∈ slots, slot.2.Placed documents)
    (inside : body.Stays documents position) :
    (Compile.withLayer slots body).Stays documents position := by
  intro state here placed
  obtain ⟨after, fails⟩ := inside (state.entering slots) here
    ⟨placed.journal, placed.scope.cons fits⟩
  exact ⟨⟨after.journal, after.scope.drop 1⟩, fails⟩

end Compile.Stays

/-- A plan is carried out in place when what it visits, and what it can be faulted for, stands below
the current position. -/
theorem Plan.run_stays {α : Type} {compile : NodeCompiler} (restores : compile.Restores)
    (stays : compile.Stays documents) {plan : Plan α} {visited : List String → Json → Prop}
    {faulted : List String → Prop} (visits : plan.Visits visited) (faults : plan.FailsAt faulted)
    (leads : ∀ path node, visited path node → (position.below path).Holds documents node)
    (occupied : ∀ path, faulted path → (position.below path).Occupied documents) :
    (plan.run compile).Stays documents position := by
  induction plan generalizing visited faulted position with
  | done a => exact .pure a
  | fail fault =>
    have here := occupied [] faults
    rw [Position.below_nil] at here
    exact .fail here fault
  | note remark => exact .note trivial
  | visit node =>
    have here := leads [] node visits
    rw [Position.below_nil] at here
    exact stays node position here
  | under segments plan ih =>
    refine .under (ih visits faults ?_ ?_)
    · intro path node there
      rw [Position.below_below]
      exact leads _ node there
    · intro path there
      rw [Position.below_below]
      exact occupied _ there
  | andThen first next firstIH nextIH =>
    refine .bind (run_restores restores first) (firstIH visits.1 faults.1 leads occupied) ?_
    rintro a ⟨state, after, ran⟩
    have given := run_canGive ran
    exact nextIH a (visits.2 a given) (faults.2 a given) leads occupied

/-! ## Definitions and references -/

namespace Definitions

variable {compile : NodeCompiler}

/-- A body is compiled at its own position, wherever it is asked for. -/
theorem demand_stays (restores : compile.Restores) (stays : compile.Stays documents)
    {state : State} {name : String} {binding : Scope.Binding} {definition : Definition}
    (placed : state.Placed documents) (found : state.scope.find? name = some binding)
    (declared : binding.slot = .pending definition) :
    (demand compile binding.level name definition).StaysFrom documents state := by
  unfold Compile.StaysFrom
  obtain ⟨hidden, layer, outer, parts, level, -, slot, -⟩ := Scope.located found
  rw [declared] at slot
  rw [level]
  obtain ⟨journal, scope⟩ := placed
  rw [parts] at scope
  obtain ⟨inside, visible⟩ := scope.of_append
  have stands : definition.position.Holds documents definition.node :=
    visible layer List.mem_cons_self name _ slot
  have entering : (demanding state name definition layer outer).Placed documents :=
    ⟨journal, visible.set trivial⟩
  obtain ⟨after, fails⟩ := stays definition.node _ stands _ rfl entering
  cases ends : compile definition.node (demanding state name definition layer outer) with
  | mk outcome final =>
    rw [ends] at after fails
    cases outcome with
    | ok ty =>
      obtain ⟨middle, inner, rest, ran, same, length, -, -⟩ :=
        demand_ok restores parts (demand_of_ok parts ends)
      rw [ends] at ran
      cases ran
      rw [demand_of_ok parts ends]
      refine ⟨⟨after.journal, ?_⟩, fun _ ended => nomatch ended⟩
      have kept := after.scope
      rw [same] at kept
      simp only [same, ← length, Scope.set_append]
      exact inside.append (kept.set trivial)
    | error error =>
      rw [demand_of_error parts ends]
      exact ⟨⟨after.journal, inside.append after.scope⟩, fails⟩

theorem settle_stays (restores : compile.Restores) (stays : compile.Stays documents)
    {state : State} {name : String} {binding : Scope.Binding} (reference : String)
    (occupied : state.position.Occupied documents) (placed : state.Placed documents)
    (found : state.scope.find? name = some binding) :
    (settle compile name reference binding).StaysFrom documents state := by
  unfold settle
  split
  · exact Compile.Stays.pure _ state rfl placed
  · exact Compile.Stays.fail occupied _ state rfl placed
  · next definition declared => exact demand_stays restores stays placed found declared

theorem resolve_stays (restores : compile.Restores) (stays : compile.Stays documents)
    (occupied : position.Occupied documents) (name reference : String) :
    (resolve compile name reference).Stays documents position := by
  intro state here placed
  subst here
  cases found : state.scope.find? name with
  | none =>
    have failed : resolve compile name reference state =
        Compile.fail (.unresolvedReference reference) state := resolve_of_none found
    unfold Compile.StaysFrom
    rw [failed]
    exact Compile.Stays.fail occupied _ state rfl placed
  | some binding =>
    have settled := settle_stays restores stays reference occupied placed found
    unfold Compile.StaysFrom
    rw [resolve_of_some found]
    refine settled.bind fun ty after _ between => ?_
    exact ⟨⟨List.forall_mem_cons.mpr ⟨trivial, between.journal⟩, between.scope⟩,
      fun _ same => nomatch same⟩

theorem resolveAll_stays (restores : compile.Restores) (stays : compile.Stays documents)
    (occupied : position.Occupied documents) (entries : List Entry) :
    (resolveAll compile entries).Stays documents position := by
  induction entries with
  | nil => exact .pure ()
  | cons entry rest ih =>
    exact .bind (resolve_restores restores _ _) (resolve_stays restores stays occupied _ _)
      fun _ _ => ih

/-- The bodies of a node stand in its blocks, each under its name. -/
theorem slots_placed {members : Members} {entries : List Entry}
    (distinct : (Json.obj members).Distinct) (holds : position.Holds documents (.obj members))
    (read : Definitions.entries members = .ok entries) :
    ∀ slot ∈ slots position entries, slot.2.Placed documents := by
  rintro ⟨name, slot⟩ member
  obtain ⟨entry, here, -, rfl⟩ := mem_slots member
  exact holds.below (entry.at? distinct read here)

theorem within_stays {α : Type} (restores : compile.Restores) (stays : compile.Stays documents)
    {members : Members} (distinct : (Json.obj members).Distinct)
    (holds : position.Holds documents (.obj members)) {body : Compile α}
    (inside : body.Stays documents position) :
    (within compile members body).Stays documents position := by
  refine .bind (.ofExcept _) (.ofExcept holds.occupied _) ?_
  rintro entries ⟨state, after, ran⟩
  have read := (Compile.ofExcept_ok ran).1
  split
  · exact inside
  · refine .bind (.note (by simp)) (.note trivial) fun _ _ => .read_position ?_
    refine .withLayer (slots_placed distinct holds read) ?_
    exact .bind (resolveAll_restores restores entries)
      (resolveAll_stays restores stays holds.occupied entries) fun _ _ => inside

end Definitions

namespace Reference

variable {compile : NodeCompiler} {loader : Loader}

theorem document_stays (restores : compile.Restores) (stays : compile.Stays documents)
    (every : documents.Distinct) {location : Location} {document : Json}
    (found : documents (some location) = some document) (reference fragment : String) :
    (Reference.document compile reference fragment document).Stays documents
      ⟨some location, []⟩ := by
  have root : Position.Holds documents ⟨some location, []⟩ document := ⟨document, found, rfl⟩
  unfold Reference.document
  split
  · exact stays document _ root
  · next full =>
    split
    · refine Definitions.within_stays restores stays (root.distinct every) root ?_
      split
      · exact Definitions.resolve_stays restores stays root.occupied _ _
      · split
        · next node leads =>
          refine .read_position (.within (stays node _ ⟨_, found, ?_⟩))
          exact Json.at?_of_pointer? (by simpa using full) leads
        · exact .fail root.occupied _
    · exact .fail root.occupied _

theorem load_stays (location : Location) : (load loader location).Stays documents position := by
  refine .bind (.note (by simp)) (.note trivial) fun _ _ => ?_
  split
  · exact .pure _
  · exact .raise rfl

variable (every : documents.Distinct) (serves : ∀ location document,
  loader.load location = .ok document → documents (some location) = some document)

include every serves

theorem external_stays (restores : compile.Restores) (stays : compile.Stays documents)
    (occupied : position.Occupied documents) (reference : String) :
    (external loader compile reference).Stays documents position := by
  refine .read fun base => .read fun cyclic => ?_
  split
  · exact .fail occupied _
  · refine .bind (load_restores loader _) (load_stays _) ?_
    rintro loaded ⟨state, after, ran⟩
    have found := serves _ _ (load_ok ran).1
    exact .opening _ (.within (document_stays restores stays every found _ _))

theorem resolve_stays (restores : compile.Restores) (stays : compile.Stays documents)
    (occupied : position.Occupied documents) (reference : String) :
    (resolve loader compile reference).Stays documents position := by
  refine .bind (.note (by simp)) (.note trivial) fun _ _ => ?_
  split
  · split
    · exact Definitions.resolve_stays restores stays occupied _ _
    · exact .fail occupied _
  · exact external_stays every serves restores stays occupied reference

end Reference

/-! ## Nodes -/

namespace Node

variable {compile : NodeCompiler} {loader : Loader} (every : documents.Distinct)
  (serves : ∀ location document, loader.load location = .ok document →
    documents (some location) = some document)

include every serves

theorem object_stays (restores : compile.Restores) (stays : compile.Stays documents)
    {members : Members} (holds : position.Holds documents (.obj members)) :
    (object loader compile members).Stays documents position := by
  have distinct := holds.distinct every
  have leads : ∀ path node, Part members path node → (position.below path).Holds documents node :=
    fun path node part => holds.below (part.at? distinct)
  have occupied : ∀ path, Faulted members path → (position.below path).Occupied documents := by
    rintro path (rfl | ⟨node, part⟩)
    · rw [Position.below_nil]
      exact holds.occupied
    · exact (leads path node part).occupied
  unfold object
  split
  · exact Reference.resolve_stays every serves restores stays holds.occupied _
  · exact .fail holds.occupied _
  · refine .bind (Plan.run_restores restores _) ?_ fun _ _ => ?_
    · exact Plan.run_stays restores stays noteIgnored_visits noteIgnored_failsAt leads occupied
    · exact Definitions.within_stays restores stays distinct holds
        (Plan.run_stays restores stays body_visits body_failsAt leads occupied)

/-- One step of compilation keeps track of positions if those below it do. -/
theorem step_stays (restores : compile.Restores) (stays : compile.Stays documents) :
    NodeCompiler.Stays documents (step loader compile) := by
  intro node position holds
  refine .bind (.note (by simp)) (.note holds) fun _ _ => ?_
  cases node with
  | obj members =>
    refine .bind (object_restores loader restores members)
      (object_stays every serves restores stays holds) fun ty _ => ?_
    exact .bind (.note (by simp)) (.note trivial) fun _ _ => .pure ty
  | _ => exact .fail holds.occupied _

theorem compile_stays (depth : Nat) : NodeCompiler.Stays documents (Node.compile loader depth) := by
  induction depth with
  | zero => exact fun _ _ _ => .raise rfl
  | succ depth ih => exact step_stays every serves (compile_restores loader depth) ih

end Node

namespace Compilation

variable {loader : Loader} {source : Source} {registry : Registry}

theorem documents_distinct
    (documents : ∀ location document, loader.load location = .ok document → document.Distinct)
    (distinct : source.Distinct) : (source.documents loader).Distinct := by
  intro location document found
  cases location with
  | some location =>
    cases loaded : loader.load location with
    | ok value =>
      simp only [Source.documents, loaded] at found
      cases found
      exact documents location document loaded
    | error error =>
      simp only [Source.documents, loaded] at found
      cases found
  | none =>
    cases source with
    | inline schema =>
      cases found
      exact distinct
    | location location => cases found

theorem start_stays (every : (source.documents loader).Distinct) :
    (start loader source).StaysFrom (source.documents loader) (State.start registry) := by
  have serves : ∀ location document, loader.load location = .ok document →
      source.documents loader (some location) = some document := by
    intro location document loaded
    simp [Source.documents, loaded, Except.toOption]
  have placed : (State.start registry).Placed (source.documents loader) := by
    refine ⟨by simp [State.start], Scope.Each.cons (by simp [Scope.Each]) fun slot member => ?_⟩
    obtain ⟨entry, -, rfl⟩ := List.mem_map.mp member
    trivial
  cases source with
  | inline schema =>
    have root : Position.Holds (Source.documents loader (.inline schema)) ⟨none, []⟩ schema :=
      ⟨schema, rfl, rfl⟩
    exact Node.compile_stays every serves _ schema _ root _ rfl placed
  | location location =>
    have whole : (start loader (.location location)).Stays
        (Source.documents loader (.location location)) ⟨none, []⟩ := by
      refine .bind (Reference.load_restores loader location) (Reference.load_stays location) ?_
      rintro document ⟨state, after, ran⟩
      refine .opening _ (.within (Node.compile_stays every serves _ document _ ?_))
      exact ⟨document, serves _ _ (Reference.load_ok ran).1, rfl⟩
    exact whole _ rfl placed

end Compilation

/-- The text of a position is the location of a document, a hash, and a valid pointer that spells the
path and leads to the value in that document. -/
def Position.Names (documents : Documents) (position : Position) (value : Json) : Prop :=
  ∃ document pointer, documents position.document = some document ∧
    position.text = (position.document.map Location.text).getD "" ++ "#" ++ pointer ∧
    Pointer.Valid pointer ∧ Pointer.segments pointer = position.path ∧
    document.pointer? pointer = some value

theorem Position.Holds.names {documents : Documents} {position : Position} {value : Json}
    (holds : position.Holds documents value) : position.Names documents value := by
  obtain ⟨document, found, there⟩ := holds
  refine ⟨document, Pointer.text position.path, found, rfl, Pointer.text_valid _,
    Pointer.segments_text _, ?_⟩
  rw [Json.pointer?_text, there]

/-- Every node is compiled at the position that names it, and every error but that of a loader comes
with a position that names some value. -/
theorem compile_keeps_position {loader : Loader} {source : Source} {registry : Registry}
    (documents : ∀ location document, loader.load location = .ok document → document.Distinct)
    (distinct : source.Distinct) :
    (∀ position node, .visited position node ∈ (Compilation.run loader source registry).events →
      position.Names (source.documents loader) node) ∧
    ∀ error, CompilesTo loader source registry (.error error) →
      (∃ failure, error = .load failure) ∨
        ∃ position value, error.position? = some position ∧
          position.Names (source.documents loader) value := by
  have every := Compilation.documents_distinct documents distinct
  constructor
  · intro position node visited
    rw [Compilation.run, List.mem_reverse] at visited
    have stands := (Compilation.start_stays every).1.journal _ visited
    exact stands.names
  · rintro error ⟨ends, budget, ran⟩
    have enlarged : (source.documents (loader.withBudget budget)).Distinct := every
    have located := (Compilation.start_stays enlarged).2 error ran
    cases error with
    | load failure => exact .inl ⟨failure, rfl⟩
    | exhausted => exact (ends rfl).elim
    | _ =>
      obtain ⟨value, holds⟩ := located _ rfl
      exact .inr ⟨_, value, rfl, holds.names⟩

/-- A definition with a slash in its name that stands for a part of another document. -/
def slashedName : Json :=
  .obj [("definitions", .obj [("a/b", .obj [("$ref", .str "d.json#/properties/x~0y")])]),
    ("type", .str "number")]

/-- A property with a tilde in its name, of a type that there is not. -/
def tildeProperty : Json := .obj [("properties", .obj [("x~y", .obj [("type", .str "boolean")])])]

theorem tildeProperty_distinct : tildeProperty.Distinct := by
  refine .obj (by decide) (List.forall_mem_singleton.mpr (.obj (by decide) ?_))
  exact List.forall_mem_singleton.mpr (.obj (by decide) (List.forall_mem_singleton.mpr .str))

theorem slashedName_distinct : slashedName.Distinct := by
  refine .obj (by decide) (List.forall_mem_cons.mpr ⟨.obj (by decide) ?_, ?_⟩)
  · exact List.forall_mem_singleton.mpr (.obj (by decide) (List.forall_mem_singleton.mpr .str))
  · exact List.forall_mem_singleton.mpr .str

theorem compile_keeps_position_slashedName :
    let loader := Bundle.loader ⟨[("d.json", tildeProperty)]⟩
    (∀ position node,
      .visited position node ∈ (Compilation.run loader (.inline slashedName) .empty).events →
        position.Names (Source.documents loader (.inline slashedName)) node) ∧
    ∃ error, CompilesTo loader (.inline slashedName) .empty (.error error) ∧
      error.message =
        "unsupported type/format pair (boolean, default) at d.json#/properties/x~0y" ∧
      ∃ position value, error.position? = some position ∧
        position.Names (Source.documents loader (.inline slashedName)) value := by
  intro loader
  have documents : ∀ location document, loader.load location = .ok document →
      document.Distinct := by
    intro location document loaded
    obtain ⟨-, rfl⟩ :=
      Prod.mk.inj (List.mem_singleton.mp (Keyed.mem_of_lookup (Bundle.load_ok loaded)))
    exact tildeProperty_distinct
  have distinct : (Source.inline slashedName).Distinct := slashedName_distinct
  obtain ⟨visited, located⟩ :=
    @compile_keeps_position loader (.inline slashedName) .empty documents distinct
  refine ⟨visited, ?_⟩
  have told : (match compile loader (.inline slashedName) .empty with
      | .error error => error.position?.isSome && error.message ==
        "unsupported type/format pair (boolean, default) at d.json#/properties/x~0y"
      | .ok _ => false) = true := by decide +kernel
  cases ran : compile loader (.inline slashedName) .empty with
  | ok ty =>
    rw [ran] at told
    cases told
  | error error =>
    simp only [ran, Bool.and_eq_true, beq_iff_eq] at told
    obtain ⟨positioned, message⟩ := told
    have found := Bundle.compilesTo_iff.mpr ran
    refine ⟨error, found, message, ?_⟩
    rcases located error found with ⟨failure, rfl⟩ | named
    · cases positioned
    · exact named

end SchemaTypes
