import SchemaTypes.Proofs.Counterpart
import SchemaTypes.Proofs.Harvest

/-! Which documents are open, told by the events alone. A reference opens a document for the node
that it belongs to, and the document is closed when that node is compiled. Whatever the loader, no
document is opened while one of the same key is open: the reference that would do so is the last
event, and the compilation ends with a cycle at it. -/
namespace SchemaTypes

namespace Event

/-- What an event does to the documents that are open. There is a list of them for each node that is
not done, innermost first, and one for the compilation as a whole. -/
def advance (frames : List (List Location)) : Event → List (List Location)
  | .visited .. => [] :: frames
  | .compiled .. => frames.drop 1
  | .opening location _ => (location :: frames.headD []) :: frames.drop 1
  | _ => frames

/-- The documents that are open behind some events, innermost first. -/
def openDocuments (events : List Event) : List Location := (events.foldl advance [[]]).flatten

/-- The open documents by node, behind events that are given the latest first. -/
def frames : List Event → List (List Location)
  | [] => [[]]
  | event :: earlier => event.advance (frames earlier)

theorem openDocuments_eq (events : List Event) :
    openDocuments events = (frames events.reverse).flatten := by
  have folded (journal : List Event) :
      frames journal = journal.foldr (fun event frames => event.advance frames) [[]] := by
    induction journal with
    | nil => rfl
    | cons event earlier ih => rw [frames, List.foldr_cons, ih]
  rw [openDocuments, folded, List.foldr_reverse]

/-- The keys of the documents that are open behind some events, the latest first. -/
def openKeys (journal : List Event) : List Location.Key := (frames journal).flatten.map Location.key

/-- The location that a reference at a position names, when it names another document. -/
def external? : Event → Option Location
  | .resolving reference position =>
    match Reference.localFragment? reference with
    | some _ => none
    | none => some (Location.resolve (Reference.split reference).1 position.document)
  | _ => none

/-- Nothing that is open is opened or asked for again. -/
def Orderly : List Event → Prop
  | [] => True
  | event :: earlier =>
    (∀ location, event.opened? = some location ∨ event.external? = some location →
      location.key ∉ openKeys earlier) ∧ Orderly earlier

/-- How an error may come about: in order, or right at a reference to a document that is open. -/
inductive EndsAt (error : CompileError) : List Event → Prop where
  | orderly {journal : List Event} : Orderly journal → EndsAt error journal
  | reentering {earlier : List Event} {reference : String} {position : Position} :
      Orderly earlier → error = .cyclicReference reference position →
      EndsAt error (.resolving reference position :: earlier)

/-- An event that has to do with neither nodes nor documents. -/
structure Aside (event : Event) : Prop where
  advance : ∀ frames, event.advance frames = frames
  opened : event.opened? = none
  external : event.external? = none

variable {event : Event} {journal earlier later : List Event}

theorem Aside.orderly_cons (aside : event.Aside) (orderly : Orderly journal) :
    Orderly (event :: journal) := by
  refine ⟨fun location asked => ?_, orderly⟩
  rw [aside.opened, aside.external] at asked
  rcases asked with asked | asked <;> cases asked

/-- In orderly events every event is in order. -/
theorem Orderly.split (orderly : Orderly (later ++ event :: earlier)) {location : Location}
    (asked : event.opened? = some location ∨ event.external? = some location) :
    location.key ∉ openKeys earlier := by
  induction later with
  | nil => exact orderly.1 location asked
  | cons first later ih => exact ih orderly.2

/-- So it is up to an error, but for the reference that the error is about. -/
theorem EndsAt.split {error : CompileError} (ends : EndsAt error (later ++ event :: earlier))
    {location : Location} (asked : event.opened? = some location ∨ event.external? = some location) :
    location.key ∉ openKeys earlier ∨ later = [] ∧ ∃ reference position,
      event = .resolving reference position ∧ error = .cyclicReference reference position := by
  generalize same : later ++ event :: earlier = journal at ends
  cases ends with
  | orderly orderly =>
    subst same
    exact .inl (orderly.split asked)
  | reentering orderly cyclic =>
    cases later with
    | nil =>
      cases same
      exact .inr ⟨rfl, _, _, rfl, cyclic⟩
    | cons first later =>
      cases same
      exact .inl (orderly.split asked)

end Event

open Event

/-! ## Computations that keep order -/

/-- The documents that are open by the events are those that are open. -/
structure State.Stacked (state : State) : Prop where
  orderly : Orderly state.journal
  opened : openKeys state.journal = state.opened

/-- What a computation opens it closes, unless it fails, and nothing is opened twice. -/
structure Compile.KeepsOrder {α : Type} (body : Compile α) : Prop where
  ok : ∀ state a after, state.Stacked → body state = (.ok a, after) →
    after.Stacked ∧ frames after.journal = frames state.journal
  error : ∀ state error after, state.Stacked → body state = (.error error, after) →
    EndsAt error after.journal

/-- A computation that may leave documents to its node, to be closed together with it. -/
structure Compile.KeepsOrderAround {α : Type} (body : Compile α) : Prop where
  ok : ∀ state a after, state.Stacked → body state = (.ok a, after) →
    Orderly after.journal ∧ after.opened = state.opened ∧
      (frames after.journal).drop 1 = (frames state.journal).drop 1
  error : ∀ state error after, state.Stacked → body state = (.error error, after) →
    EndsAt error after.journal

namespace Compile.KeepsOrder

variable {α β : Type} {body : Compile α}

theorem around (keeps : body.KeepsOrder) : body.KeepsOrderAround where
  ok state a after stacked ran := by
    obtain ⟨ended, same⟩ := keeps.ok state a after stacked ran
    refine ⟨ended.orderly, ?_, by rw [same]⟩
    rw [← ended.opened, ← stacked.opened, openKeys, openKeys, same]
  error := keeps.error

theorem pure (a : α) : (Pure.pure a : Compile α).KeepsOrder where
  ok state b after stacked ran := by
    cases ran
    exact ⟨stacked, rfl⟩
  error state error after stacked ran := nomatch ran

theorem raise (error : CompileError) : (Compile.raise error : Compile α).KeepsOrder where
  ok state a after stacked ran := nomatch ran
  error state error after stacked ran := by
    cases ran
    exact .orderly stacked.orderly

theorem fail (fault : Fault) : (Compile.fail fault : Compile α).KeepsOrder where
  ok state a after stacked ran := nomatch ran
  error state error after stacked ran := by
    cases ran
    exact .orderly stacked.orderly

theorem ofExcept (outcome : Except Fault α) : (Compile.ofExcept outcome).KeepsOrder := by
  cases outcome with
  | ok a => exact pure a
  | error fault => exact fail fault

theorem read (look : State → α) : (Compile.read look).KeepsOrder where
  ok state b after stacked ran := by
    cases ran
    exact ⟨stacked, rfl⟩
  error state error after stacked ran := nomatch ran

theorem note {event : Position → Event} (aside : ∀ position, (event position).Aside) :
    (Compile.note event).KeepsOrder where
  ok state b after stacked ran := by
    cases ran
    have same : frames (event state.position :: state.journal) = frames state.journal :=
      (aside state.position).advance _
    refine ⟨⟨(aside _).orderly_cons stacked.orderly, ?_⟩, same⟩
    rw [← stacked.opened, openKeys, openKeys, ← same]
  error state error after stacked ran := nomatch ran

theorem bind {next : α → Compile β} (first : body.KeepsOrder)
    (rest : ∀ a, (next a).KeepsOrder) : (body >>= next).KeepsOrder where
  ok state b after stacked ran := by
    obtain ⟨a, middle, firstRan, nextRan⟩ := bind_ok ran
    obtain ⟨between, same⟩ := first.ok state a middle stacked firstRan
    obtain ⟨ended, same'⟩ := (rest a).ok middle b after between nextRan
    exact ⟨ended, same'.trans same⟩
  error state error after stacked ran := by
    rcases bind_error ran with ended | ⟨a, middle, firstRan, nextRan⟩
    · exact first.error state error after stacked ended
    · obtain ⟨between, -⟩ := first.ok state a middle stacked firstRan
      exact (rest a).error middle error after between nextRan

/-- Where a computation stands and which names it knows has nothing to do with documents. -/
theorem aside {body' : Compile α} (keeps : body.KeepsOrder)
    (same : ∀ state, ∃ before, before.journal = state.journal ∧ before.opened = state.opened ∧
      (body' state).1 = (body before).1 ∧
      (body' state).2.journal = (body before).2.journal ∧
      (body' state).2.opened = (body before).2.opened) : body'.KeepsOrder where
  ok state a after stacked ran := by
    obtain ⟨before, journal, opened, outcome, journal', opened'⟩ := same state
    rw [ran] at outcome journal' opened'
    have entering : before.Stacked := ⟨journal ▸ stacked.orderly, by
      rw [journal, opened]
      exact stacked.opened⟩
    obtain ⟨ended, kept⟩ :=
      keeps.ok before a (body before).2 entering (Prod.ext outcome.symm rfl)
    rw [← journal'] at kept
    refine ⟨⟨?_, ?_⟩, by rw [kept, journal]⟩
    · rw [show after.journal = _ from journal']
      exact ended.orderly
    · rw [show after.journal = _ from journal', show after.opened = _ from opened']
      exact ended.opened
  error state error after stacked ran := by
    obtain ⟨before, journal, opened, outcome, journal', -⟩ := same state
    rw [ran] at outcome journal'
    have entering : before.Stacked := ⟨journal ▸ stacked.orderly, by
      rw [journal, opened]
      exact stacked.opened⟩
    rw [show after.journal = _ from journal']
    exact keeps.error before error (body before).2 entering (Prod.ext outcome.symm rfl)

theorem under (segments : List String) (inside : body.KeepsOrder) :
    (Compile.under segments body).KeepsOrder :=
  inside.aside fun state => ⟨{ state with position.path := state.position.path ++ segments },
    rfl, rfl, rfl, rfl, rfl⟩

theorem within (position : Position) (inside : body.KeepsOrder) :
    (Compile.within position body).KeepsOrder :=
  inside.aside fun state => ⟨{ state with position }, rfl, rfl, rfl, rfl, rfl⟩

theorem withLayer (slots : List (String × Slot)) (inside : body.KeepsOrder) :
    (Compile.withLayer slots body).KeepsOrder :=
  inside.aside fun state => ⟨state.entering slots, rfl, rfl, rfl, rfl, rfl⟩

end Compile.KeepsOrder

theorem Plan.run_keepsOrder {α : Type} {compile : NodeCompiler}
    (keeps : ∀ node, (compile node).KeepsOrder) (plan : Plan α) :
    (plan.run compile).KeepsOrder := by
  induction plan with
  | done a => exact .pure a
  | fail fault => exact .fail fault
  | note remark => exact .note fun _ => ⟨fun _ => rfl, rfl, rfl⟩
  | visit node => exact keeps node
  | under segments plan ih => exact .under segments ih
  | andThen first next firstIH nextIH => exact firstIH.bind nextIH

namespace Definitions

variable {compile : NodeCompiler} (keeps : ∀ node, (compile node).KeepsOrder)

include keeps

theorem demand_keepsOrder (level : Nat) (name : String) (definition : Definition) :
    (demand compile level name definition).KeepsOrder := by
  refine ((keeps definition.node).within definition.position).aside fun state => ?_
  refine ⟨{ state with
    scope := (state.scope.upTo level).set level name .compiling }, rfl, rfl, ?_⟩
  unfold demand
  dsimp only
  generalize Compile.within definition.position (compile definition.node) _ = ended
  obtain ⟨outcome, after⟩ := ended
  cases outcome <;> exact ⟨rfl, rfl, rfl⟩

theorem resolve_keepsOrder (name reference : String) :
    (resolve compile name reference).KeepsOrder := by
  refine (Compile.KeepsOrder.read _).bind fun found => ?_
  split
  · exact .fail _
  · refine Compile.KeepsOrder.bind ?_ fun ty =>
      (Compile.KeepsOrder.note (by exact fun _ => ⟨fun _ => rfl, rfl, rfl⟩)).bind fun _ => .pure ty
    unfold settle
    split
    · exact .pure _
    · exact .fail _
    · exact demand_keepsOrder keeps _ _ _

theorem resolveAll_keepsOrder (entries : List Entry) :
    (resolveAll compile entries).KeepsOrder := by
  induction entries with
  | nil => exact .pure ()
  | cons entry rest ih => exact (resolve_keepsOrder keeps _ _).bind fun _ => ih

theorem within_keepsOrder {α : Type} (members : Members) {body : Compile α}
    (inside : body.KeepsOrder) : (within compile members body).KeepsOrder := by
  refine (Compile.KeepsOrder.ofExcept _).bind fun entries => ?_
  split
  · exact inside
  · refine (Compile.KeepsOrder.note (by exact fun _ => ⟨fun _ => rfl, rfl, rfl⟩)).bind fun _ => ?_
    refine (Compile.KeepsOrder.read _).bind fun position => ?_
    exact .withLayer _ ((resolveAll_keepsOrder keeps entries).bind fun _ => inside)

end Definitions

/-! ## References -/

/-- The state in which a reference is followed. -/
def State.asking (state : State) (reference : String) : State :=
  { state with journal := .resolving reference state.position :: state.journal }

namespace State.Stacked

variable {state : State} {location : Location}

theorem start (registry : Registry) : (State.start registry).Stacked := ⟨trivial, rfl⟩

/-- A document that is not open may be asked for. -/
theorem asking {reference : String} (stacked : state.Stacked)
    (elsewhere : Reference.localFragment? reference = none)
    (apart : (Reference.target reference state).key ∉ state.opened) :
    (state.asking reference).Stacked := by
  refine ⟨⟨fun location asked => ?_, stacked.orderly⟩, stacked.opened⟩
  rw [stacked.opened]
  rcases asked with asked | asked
  · cases asked
  · rw [external?, elsewhere] at asked
    cases asked
    exact apart

/-- A document that is not open may be opened. -/
theorem entering (stacked : state.Stacked) (loader : Loader) (apart : location.key ∉ state.opened) :
    (Reference.entered loader location state).Stacked := by
  refine ⟨⟨fun other asked => ?_, stacked.orderly⟩, ?_⟩
  · rw [stacked.opened]
    rcases asked with asked | asked <;> cases asked
    exact apart
  · change openKeys (.opening location loader.announces :: state.journal) =
      location.key :: state.opened
    rw [← stacked.opened]
    simp only [openKeys, frames, advance]
    cases frames state.journal <;> rfl

/-- Once the document is done, it is left to the node that referred to it. -/
theorem closing {α : Type} {body : Compile α} {loader : Loader} {a : α} {inner : State}
    (stacked : state.Stacked) (apart : location.key ∉ state.opened) (keeps : body.KeepsOrder)
    (ran : body (Reference.entered loader location state) = (.ok a, inner)) :
    Orderly inner.journal ∧ inner.opened.drop 1 = state.opened ∧
      (frames inner.journal).drop 1 = (frames state.journal).drop 1 := by
  have entered := stacked.entering loader apart
  obtain ⟨ended, same⟩ := keeps.ok _ a inner entered ran
  refine ⟨ended.orderly, ?_, by rw [same]; rfl⟩
  rw [← ended.opened, openKeys, same]
  change (openKeys (Reference.entered loader location state).journal).drop 1 = state.opened
  rw [entered.opened]
  rfl

end State.Stacked

namespace Reference

variable {loader : Loader} {compile : NodeCompiler} (keeps : ∀ node, (compile node).KeepsOrder)

include keeps

theorem document_keepsOrder (reference fragment : String) (document : Json) :
    (Reference.document compile reference fragment document).KeepsOrder := by
  unfold Reference.document
  split
  · exact keeps document
  · split
    · refine Definitions.within_keepsOrder keeps _ ?_
      split
      · exact Definitions.resolve_keepsOrder keeps _ _
      · split
        · exact (Compile.KeepsOrder.read _).bind fun position => .within _ (keeps _)
        · exact .fail _
    · exact .fail _

/-- A reference to a document that is open already is where the compilation ends. -/
theorem external_keepsOrder {reference : String} (elsewhere : localFragment? reference = none) :
    (do Compile.note (.resolving reference ·); external loader compile reference
      : Compile Ty).KeepsOrderAround := by
  constructor
  · intro state ty after stacked ran
    change external loader compile reference (state.asking reference) = _ at ran
    obtain ⟨apart, document, inner, -, ended, rfl⟩ := external_ok ran
    exact (stacked.asking elsewhere apart).closing apart (document_keepsOrder keeps _ _ document)
      ended
  · intro state error after stacked ran
    change external loader compile reference (state.asking reference) = _ at ran
    by_cases cyclic : (target reference (state.asking reference)).key ∈
        (state.asking reference).opened
    · rw [external_of_open cyclic] at ran
      cases ran
      exact .reentering stacked.orderly rfl
    · have asking := stacked.asking elsewhere cyclic
      cases loaded : loader.load (target reference (state.asking reference)) with
      | error failure =>
        rw [external_of_failed cyclic loaded] at ran
        cases ran
        exact .orderly (asking.entering loader cyclic).orderly
      | ok document =>
        rw [external_of_loaded cyclic loaded] at ran
        cases ended : Reference.document compile reference (split reference).2 document
            (entered loader (target reference (state.asking reference))
              (state.asking reference)) with
        | mk outcome inner =>
          rw [ended] at ran
          cases ran
          exact (document_keepsOrder keeps _ _ document).error _ error inner
            (asking.entering loader cyclic) ended

theorem resolve_keepsOrder (reference : String) :
    (resolve loader compile reference).KeepsOrderAround := by
  unfold resolve
  cases here : localFragment? reference with
  | none => exact external_keepsOrder keeps here
  | some fragment =>
    refine Compile.KeepsOrder.around (Compile.KeepsOrder.bind (.note fun position => ?_) fun _ => ?_)
    · exact ⟨fun _ => rfl, rfl, by rw [external?, here]⟩
    · dsimp only
      split
      · exact Definitions.resolve_keepsOrder keeps _ _
      · exact .fail _

end Reference

/-! ## Nodes -/

namespace Node

variable {loader : Loader} {compile : NodeCompiler}

theorem object_keepsOrder (keeps : ∀ node, (compile node).KeepsOrder) (members : Members) :
    (object loader compile members).KeepsOrderAround := by
  unfold object
  split
  · exact Reference.resolve_keepsOrder keeps _
  · exact (Compile.KeepsOrder.fail _).around
  · refine ((Plan.run_keepsOrder keeps _).bind fun _ => ?_).around
    exact Definitions.within_keepsOrder keeps members (Plan.run_keepsOrder keeps _)

/-- What the reference of a node opened is closed when the node is compiled. -/
theorem step_keepsOrder (keeps : ∀ node, (compile node).KeepsOrder) (node : Json) :
    (step loader compile node).KeepsOrder := by
  have visiting {state : State} (stacked : state.Stacked) : State.Stacked
      { state with journal := .visited state.position node :: state.journal } := by
    refine ⟨⟨fun location asked => ?_, stacked.orderly⟩, stacked.opened⟩
    rcases asked with asked | asked <;> cases asked
  cases node with
  | obj members =>
    have object := @object_keepsOrder loader compile keeps members
    constructor
    · intro state ty after stacked ran
      obtain ⟨_, _, noted, ran⟩ := Compile.bind_ok ran
      cases noted
      obtain ⟨type, middle, compiled, noted⟩ := Compile.bind_ok ran
      obtain ⟨orderly, opened, same⟩ := object.ok _ type middle (visiting stacked) compiled
      cases noted
      have closed : frames (.compiled middle.position (.obj members) ty :: middle.journal) =
          frames state.journal := same
      refine ⟨⟨⟨fun location asked => ?_, orderly⟩, ?_⟩, closed⟩
      · rcases asked with asked | asked <;> cases asked
      · rw [openKeys, closed]
        exact stacked.opened.trans opened.symm
    · intro state error after stacked ran
      rw [Node.step_object] at ran
      obtain ended | ⟨_, _, _, ⟨⟩⟩ := Compile.bind_error ran
      exact object.error _ error after (visiting stacked) ended
  | _ =>
    constructor
    · intro state ty after stacked ran
      cases ran
    · intro state error after stacked ran
      cases ran
      exact .orderly (visiting stacked).orderly

theorem compile_keepsOrder (loader : Loader) (depth : Nat) (node : Json) :
    (Node.compile loader depth node).KeepsOrder := by
  induction depth generalizing node with
  | zero => exact .raise _
  | succ depth ih => exact step_keepsOrder ih node

end Node

namespace Compilation

/-- Every compilation keeps order to its end, unless it ends at a reference to an open document. -/
theorem startWithin_endsAt (loader : Loader) (bound : Json → Nat) (source : Source)
    (registry : Registry) {outcome : Except CompileError Ty} {after : State}
    (ran : startWithin loader bound source (State.start registry) = (outcome, after)) :
    Orderly after.journal ∨ ∃ error, outcome = .error error ∧ EndsAt error after.journal := by
  have stacked := State.Stacked.start registry
  have apart (location : Location) : location.key ∉ (State.start registry).opened :=
    List.not_mem_nil
  cases source with
  | inline schema =>
    have keeps := Node.compile_keepsOrder loader (bound schema) schema
    cases outcome with
    | ok ty => exact .inl (keeps.ok _ ty after stacked ran).1.orderly
    | error error => exact .inr ⟨error, rfl, keeps.error _ error after stacked ran⟩
  | location location =>
    cases loaded : loader.load location with
    | error failure =>
      rw [startWithin_unloaded loaded] at ran
      cases ran
      exact .inl (stacked.entering loader (apart location)).orderly
    | ok root =>
      have keeps := Node.compile_keepsOrder loader (bound root) root
      rw [startWithin_location loaded] at ran
      cases ended : Node.compile loader (bound root) root
          (Reference.entered loader location (State.start registry)) with
      | mk result inner =>
        rw [ended] at ran
        cases ran
        cases result with
        | ok ty => exact .inl (stacked.closing (apart location) keeps ended).1
        | error error =>
          exact .inr ⟨error, rfl,
            keeps.error _ error inner (stacked.entering loader (apart location)) ended⟩

/-- No document is opened or asked for while one of its key is open, but where the compilation ends
for that reason. -/
theorem run_opens_closed (loader : Loader) (source : Source) (registry : Registry)
    {before after : List Event} {event : Event} {location : Location}
    (happened : (run loader source registry).events = before ++ event :: after)
    (asked : event.opened? = some location ∨ event.external? = some location) :
    (∀ other ∈ openDocuments before, location.key ≠ other.key) ∨
      after = [] ∧ ∃ reference position, event = .resolving reference position ∧
        (run loader source registry).outcome = .error (.cyclicReference reference position) := by
  have apart (unlisted : location.key ∉ openKeys before.reverse) :
      ∀ other ∈ openDocuments before, location.key ≠ other.key := by
    intro other member same
    rw [openDocuments_eq] at member
    exact unlisted (same ▸ List.mem_map_of_mem member)
  cases ran : start loader source (State.start registry) with
  | mk outcome last =>
    have whole : run loader source registry = ⟨outcome, last.journal.reverse⟩ := by
      rw [run, ran]
    rw [whole] at happened ⊢
    have journal : last.journal = after.reverse ++ event :: before.reverse := by
      have reversed := congrArg List.reverse happened
      simpa using reversed
    rcases startWithin_endsAt loader _ source registry ran with orderly | ⟨error, rfl, ends⟩
    · rw [journal] at orderly
      exact .inl (apart (orderly.split asked))
    · rw [journal] at ends
      rcases ends.split asked with unlisted | ⟨last, reference, position, same, cyclic⟩
      · exact .inl (apart unlisted)
      · exact .inr ⟨List.reverse_eq_nil_iff.mp last, reference, position, same,
          congrArg _ cyclic⟩

end Compilation

end SchemaTypes
