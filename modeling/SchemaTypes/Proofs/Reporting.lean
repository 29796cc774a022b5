import SchemaTypes.Proofs.Enclosure

/-! What the events of a compilation tell about its source. A node that is noted as compiled is one
that the source leads to, and it has its type inside of the definitions around it. Where definitions
came into scope, every entry that counts was compiled, unless the compilation failed before. -/
namespace SchemaTypes

section

variable (loader : Loader) (source : Source) (registry : Registry)

/-- All entries that count are noted as compiled, inside of the node that declares them. -/
def Enclosure.Compiled (events : List Event) (outer : List Enclosure) (enclosure : Enclosure) :
    Prop :=
  ∀ entry, Definitions.Counts enclosure.entries entry → ∃ ty,
    .compiled (enclosure.position.below [entry.keyword, entry.name]) entry.node ty ∈ events ∧
      Denotes loader (site registry (enclosure :: outer) enclosure.position) entry.node ty

/-- What an event tells is so, by the end of a computation. -/
def Event.Explained (failed : Bool) (events : List Event) : Event → Prop
  | .compiled position node ty => ∃ enclosures, source.Reaches loader enclosures position node ∧
      Denotes loader (Enclosure.site registry enclosures position) node ty
  | .harvesting count position => failed = true ∨ ∃ outer entries,
      source.Harvests loader outer position entries ∧ entries.length = count ∧
        Enclosure.Compiled loader registry events outer ⟨position, entries⟩
  | _ => True

/-- Events that are added by the end of a computation tell what is so. -/
structure Event.Extends (failed : Bool) (before after : List Event) : Prop where
  grown : ∀ event ∈ before, event ∈ after
  told : ∀ event ∈ after, event ∈ before ∨
    event.Explained loader source registry failed after

def Compile.ReportsFrom {α : Type} (body : Compile α) (state : State) : Prop :=
  Event.Extends loader source registry (isFailure (body state).1) state.journal (body state).2.journal

/-- Inside of enclosures and at a position, a computation adds events that tell what is so. -/
def Compile.Reports {α : Type} (enclosures : List Enclosure) (position : Position)
    (body : Compile α) : Prop :=
  ∀ state, state.position = position → State.Inside loader source registry enclosures state →
    body.ReportsFrom loader source registry state

/-- A compiler that reports on nodes that the source leads to. -/
def NodeCompiler.Reports (compile : NodeCompiler) : Prop :=
  ∀ enclosures position node, source.Reaches loader enclosures position node →
    (compile node).Reports loader source registry enclosures position

end

variable {loader : Loader} {source : Source} {registry : Registry} {enclosures outer : List Enclosure}
  {position : Position} {entries : List Definitions.Entry} {state : State} {failed : Bool}
  {before middle after : List Event}

/-! ## Events that are added -/

theorem Enclosure.Compiled.mono {enclosure : Enclosure}
    (compiled : enclosure.Compiled loader registry before outer)
    (grown : ∀ event ∈ before, event ∈ after) :
    enclosure.Compiled loader registry after outer := by
  intro entry counts
  obtain ⟨ty, noted, denoted⟩ := compiled entry counts
  exact ⟨ty, grown _ noted, denoted⟩

theorem Event.Explained.mono {event : Event} {failed' : Bool}
    (explained : event.Explained loader source registry failed before)
    (worse : failed = true → failed' = true) (grown : ∀ event ∈ before, event ∈ after) :
    event.Explained loader source registry failed' after := by
  cases event with
  | harvesting count position =>
    refine explained.imp worse ?_
    rintro ⟨outer, entries, harvests, length, compiled⟩
    exact ⟨outer, entries, harvests, length, compiled.mono grown⟩
  | compiled => exact explained
  | _ => trivial

namespace Event.Extends

theorem refl (events : List Event) : Extends loader source registry failed events events :=
  ⟨fun _ => id, fun _ => .inl⟩

theorem trans (first : Extends loader source registry false before middle)
    (second : Extends loader source registry failed middle after) :
    Extends loader source registry failed before after where
  grown event member := second.grown event (first.grown event member)
  told event member := by
    rcases second.told event member with between | explained
    · exact (first.told event between).imp_right fun explained => explained.mono (by simp) second.grown
    · exact .inr explained

/-- An event may tell what is so by the end only. -/
theorem behind {event : Event} (explained : event.Explained loader source registry failed after)
    (rest : Extends loader source registry failed (event :: before) after) :
    Extends loader source registry failed before after where
  grown other member := rest.grown other (List.mem_cons_of_mem _ member)
  told other member := by
    rcases rest.told other member with earlier | told
    · rcases List.mem_cons.mp earlier with rfl | earlier
      · exact .inr explained
      · exact .inl earlier
    · exact .inr told

theorem cons {event : Event}
    (explained : event.Explained loader source registry failed (event :: before)) :
    Extends loader source registry failed before (event :: before) :=
  (refl _).behind explained

end Event.Extends

/-! ## One computation after another -/

namespace Compile

variable {α β : Type} {body : Compile α}

theorem ReportsFrom.pure (a : α) :
    (Pure.pure a : Compile α).ReportsFrom loader source registry state := .refl _

theorem ReportsFrom.fail (fault : Fault) :
    (Compile.fail fault : Compile α).ReportsFrom loader source registry state := .refl _

theorem ReportsFrom.note {event : Position → Event}
    (explained : (event state.position).Explained loader source registry false
      (event state.position :: state.journal)) :
    (Compile.note event).ReportsFrom loader source registry state := .cons explained

theorem ReportsFrom.bind {next : α → Compile β}
    (first : body.ReportsFrom loader source registry state)
    (rest : ∀ a after, body state = (.ok a, after) →
      (next a).ReportsFrom loader source registry after) :
    (body >>= next).ReportsFrom loader source registry state := by
  unfold ReportsFrom at first ⊢
  rcases bind_ends body next state with ⟨error, middle, ended, whole⟩ | ⟨a, middle, ended, whole⟩
  · rw [ended] at first
    rw [whole]
    exact first
  · rw [ended] at first
    rw [whole]
    exact first.trans (rest a middle ended)

/-- What comes behind a computation that ends well starts inside of the same enclosures, at the same
position. -/
theorem ReportsFrom.bind_inside {next : α → Compile β} {right possible : α → Prop}
    (inside : State.Inside loader source registry enclosures state) (restores : body.Restores)
    (tells : body.Tells loader (Enclosure.site registry enclosures state.position) 0 right possible)
    (first : body.ReportsFrom loader source registry state)
    (rest : ∀ a after, body state = (.ok a, after) →
      State.Inside loader source registry enclosures after → after.position = state.position →
      (next a).ReportsFrom loader source registry after) :
    (body >>= next).ReportsFrom loader source registry state := by
  refine first.bind fun a after ran => ?_
  obtain ⟨inside', place, -⟩ := inside.after restores tells ran
  exact rest a after ran inside' place

/-- What is done from another state, with the same journal, is told there. -/
theorem ReportsFrom.elsewhere {body' : Compile α} {state' : State}
    (there : body'.ReportsFrom loader source registry state') (journal : state'.journal = state.journal)
    (outcome : (body state).1 = (body' state').1)
    (ended : (body state).2.journal = (body' state').2.journal) :
    body.ReportsFrom loader source registry state := by
  unfold ReportsFrom at there ⊢
  rw [outcome, ended, ← journal]
  exact there

end Compile

/-- A plan reports on the nodes that it visits when the source leads to them. -/
theorem Plan.run_reports {α : Type} {compile : NodeCompiler} {depth : Nat}
    (restores : compile.Restores) (tells : compile.Tells loader depth)
    (reports : compile.Reports loader source registry) {plan : Plan α}
    {visited : List String → Json → Prop} (visits : plan.Visits visited)
    (reaches : ∀ path node, visited path node →
      source.Reaches loader enclosures (position.below path) node) :
    (plan.run compile).Reports loader source registry enclosures position := by
  induction plan generalizing visited position with
  | done a => exact fun _ _ _ => .pure a
  | fail fault => exact fun _ _ _ => .fail fault
  | note remark => exact fun _ _ _ => .note trivial
  | visit node =>
    have here := reaches [] node visits
    rw [Position.below_nil] at here
    exact reports enclosures position node here
  | under segments plan ih =>
    rintro state rfl inside
    have there : (plan.run compile).Reports loader source registry enclosures
        (state.position.below segments) := by
      refine ih visits fun path node allowed => ?_
      rw [Position.below_below]
      exact reaches _ node allowed
    have moved := there { state with position := state.position.below segments } rfl
      (inside.at_path _)
    exact moved.elsewhere rfl rfl rfl
  | andThen first next firstIH nextIH =>
    intro state place inside
    refine .bind_inside inside (run_restores restores first)
      (run_tells tells (Nat.le_refl 0) (Nat.zero_le depth) first)
      (firstIH visits.1 reaches state place inside) fun a middle ran inside' place' => ?_
    exact nextIH a (visits.2 a (run_canGive ran)) reaches middle (place'.trans place) inside'

/-! ## Names -/

namespace Definitions

variable {compile : NodeCompiler} {depth : Nat} (restores : compile.Restores)
  (tells : compile.Tells loader depth) (reports : compile.Reports loader source registry)

include restores tells reports

omit restores tells in
/-- A body is compiled where it is declared, and nothing else is done for its name. -/
theorem demand_reports {binding : Scope.Binding} {definition : Definition} {name : String}
    (inside : State.Inside loader source registry enclosures state)
    (found : state.scope.find? name = some binding)
    (declared : binding.slot = .pending definition) :
    (demand compile binding.level name definition).ReportsFrom loader source registry state := by
  obtain ⟨hidden, layer, rest, parts, level, -, slot, -⟩ := Scope.located found
  rw [declared] at slot
  rw [level]
  obtain ⟨outer, reaches, entered⟩ := inside.demanding parts slot
  have there := reports outer definition.position definition.node reaches _ rfl entered
  obtain ⟨outcome, journal⟩ := demand_ends parts
  exact there.elsewhere rfl outcome journal

omit restores tells in
theorem resolve_reports (name reference : String) :
    (resolve compile name reference).Reports loader source registry enclosures position := by
  intro state _ inside
  cases found : state.scope.find? name with
  | none =>
    unfold Compile.ReportsFrom
    rw [resolve_of_none found]
    exact .refl _
  | some binding =>
    unfold Compile.ReportsFrom
    rw [resolve_of_some found]
    refine Compile.ReportsFrom.bind ?_ fun ty after _ =>
      .bind (.note trivial) fun _ _ _ => .pure ty
    unfold settle
    split
    · exact .pure _
    · exact .fail _
    · next definition declared => exact demand_reports reports inside found declared

theorem resolveAll_reports (entries : List Entry) :
    (resolveAll compile entries).Reports loader source registry enclosures position := by
  induction entries with
  | nil => exact fun _ _ _ => .pure ()
  | cons entry rest ih =>
    intro state place inside
    refine .bind_inside inside (resolve_restores restores _ _)
      (resolve_tells restores tells (Nat.le_refl 0) (Nat.zero_le depth) _ _)
      (resolve_reports reports _ _ state place inside) fun ty middle _ inside' place' => ?_
    exact ih middle (place'.trans place) inside'

omit reports in
/-- When all entries of a node are resolved, those that count were compiled inside of the node. -/
theorem resolveAll_compiled {middle : State} (some : entries ≠ [])
    (inside : State.Inside loader source registry outer state)
    (harvests : source.Harvests loader outer state.position entries)
    (ran : resolveAll compile entries (state.declaring entries) = (.ok (), middle)) :
    Enclosure.Compiled loader registry middle.journal outer ⟨state.position, entries⟩ := by
  obtain ⟨events, kept⟩ := resolveAll_restores restores entries (state.declaring entries)
  obtain ⟨inside', -, -⟩ := (inside.declaring harvests).after (resolveAll_restores restores entries)
    (resolveAll_tells restores tells (Nat.le_refl 0) (Nat.zero_le depth) entries) ran
  have admitted := inside'.admitted.blocks
  rw [ran] at kept
  intro entry counts
  obtain ⟨level, block, ty, ready⟩ := resolveAll_ok restores ran entry counts.mem
  have moved := kept.scope
  rw [State.declaring_scope some] at moved
  rw [Enclosure.around, if_neg (by simpa using some)] at admitted
  -- The slot of the entry was declared with its body and holds a type now.
  generalize middle.scope = scope at ready moved admitted
  cases moved with
  | @cons _ last _ rest head _ =>
    cases admitted with
    | block aligned _ =>
      obtain ⟨slot, held, step⟩ := head.slots.lookup (counts.lookup (declare state.position))
      obtain ⟨slot', held', stands⟩ := aligned.lookup (counts.lookup Entry.node)
      have same : slot = .ready ty := by
        rw [Scope.find?_cons_of_lookup held] at ready
        cases ready
        rfl
      subst same
      cases held.symm.trans held'
      cases step with
      | filled compiled =>
        refine ⟨ty, ?_, stands⟩
        rw [kept.journal]
        exact List.mem_append_left _ compiled

/-- With its entries in scope a node has all of them resolved, and then what is inside of it. -/
theorem declaring_reports {α : Type} {body : Compile α}
    (inside : State.Inside loader source registry outer state)
    (harvests : source.Harvests loader outer state.position entries)
    (inner : body.Reports loader source registry (Enclosure.around state.position entries outer)
      state.position) :
    Compile.ReportsFrom loader source registry (do resolveAll compile entries; body)
      (state.declaring entries) := by
  have declared := inside.declaring harvests
  refine .bind_inside declared (resolveAll_restores restores entries)
    (resolveAll_tells restores tells (Nat.le_refl 0) (Nat.zero_le depth) entries)
    (resolveAll_reports restores tells reports entries _ State.declaring_position declared)
    fun _ middle _ inside' place => ?_
  exact inner middle (place.trans State.declaring_position) inside'

omit reports in
/-- When that ends well, the entries that count were compiled. -/
theorem harvesting_explained {α : Type} {body : Compile α} (some : entries ≠ [])
    (inside : State.Inside loader source registry outer state)
    (harvests : source.Harvests loader outer state.position entries)
    (inner : body.Reports loader source registry (Enclosure.around state.position entries outer)
      state.position) {ended : Except CompileError α × State}
    (ran : (do resolveAll compile entries; body : Compile α) (state.declaring entries) = ended) :
    Event.Explained loader source registry (Compile.isFailure ended.1) ended.2.journal
      (.harvesting entries.length state.position) := by
  obtain ⟨outcome, after⟩ := ended
  cases outcome with
  | error => exact .inl rfl
  | ok a =>
    obtain ⟨_, middle, resolved, ran⟩ := Compile.bind_ok ran
    obtain ⟨inside', place, -⟩ := (inside.declaring harvests).after
      (resolveAll_restores restores entries)
      (resolveAll_tells restores tells (Nat.le_refl 0) (Nat.zero_le depth) entries) resolved
    have grown := (inner middle (place.trans State.declaring_position) inside').grown
    rw [ran] at grown
    have compiled := resolveAll_compiled restores tells some inside harvests resolved
    exact .inr ⟨outer, entries, harvests, rfl, compiled.mono grown⟩

/-- What is done inside of a node is done inside of one enclosure more, if the node has entries, and
when it ends well the entries were compiled. -/
theorem within_reports {α : Type} {members : Members} {body : Compile α}
    (harvests : ∀ entries, Definitions.entries members = .ok entries →
      source.Harvests loader outer position entries)
    (inner : ∀ entries, Definitions.entries members = .ok entries →
      body.Reports loader source registry (Enclosure.around position entries outer) position) :
    (within compile members body).Reports loader source registry outer position := by
  rintro state rfl inside
  cases read : Definitions.entries members with
  | error fault =>
    unfold within
    rw [read]
    exact .fail fault
  | ok entries =>
    cases entries with
    | nil =>
      rw [within_of_nil read]
      exact inner [] read state rfl inside
    | cons first rest =>
      have explained := harvesting_explained restores tells (List.cons_ne_nil first rest) inside
        (harvests _ read) (inner _ read) rfl
      rw [within_of_cons read]
      exact Event.Extends.behind explained
        (declaring_reports restores tells reports inside (harvests _ read) (inner _ read))

end Definitions

/-! ## References and nodes -/

namespace Reference

variable {compile : NodeCompiler} {depth : Nat} {members : Members} (restores : compile.Restores)
  (tells : compile.Tells loader depth) (reports : compile.Reports loader source registry)

include restores tells reports

/-- A document is compiled inside of what is around the reference to it. -/
theorem document_reports (reference : String) {location : Location} {fragment : String} {root : Json}
    (reaches : source.Reaches loader outer position (.obj members))
    (asks : Asks loader position members location fragment root) :
    (document compile reference fragment root).Reports loader source registry outer
      ⟨some location, []⟩ := by
  unfold document
  by_cases whole : fragment = ""
  · subst whole
    exact reports outer _ root (.document reaches asks)
  · rw [if_neg (by simpa using whole)]
    cases root with
    | obj root =>
      refine Definitions.within_reports restores tells reports
        (fun entries read => .root reaches asks whole read) fun entries read => ?_
      cases named : definitionName? fragment with
      | some name => exact Definitions.resolve_reports reports name reference
      | none =>
        dsimp only
        cases found : (Json.obj root).pointer? fragment with
        | none => exact fun _ _ _ => .fail _
        | some node =>
          intro state place inside
          have there := reports _ _ node (.excerpt reaches asks whole named read found)
            { state with position := { state.position with path := Pointer.segments fragment } }
            (by rw [place]) (inside.at_path _)
          exact there.elsewhere rfl rfl rfl
    | _ => exact fun _ _ _ => .fail _

theorem external_reports {reference : String}
    (reaches : source.Reaches loader outer position (.obj members))
    (named : members.get? "$ref" = some (.str reference))
    (outside : localFragment? reference = none) :
    (external loader compile reference).Reports loader source registry outer position := by
  rintro state rfl inside
  unfold Compile.ReportsFrom
  by_cases cyclic : (target reference state).key ∈ state.opened
  · rw [external_of_open cyclic]
    exact .refl _
  · cases loaded : loader.load (target reference state) with
    | error error =>
      rw [external_of_failed cyclic loaded]
      exact .cons trivial
    | ok root =>
      have asks : Asks loader state.position members (target reference state) (split reference).2
          root := ⟨⟨reference, named, outside, rfl, rfl⟩, loaded⟩
      have noted : Event.Extends loader source registry false state.journal
          (entered loader (target reference state) state).journal := .cons trivial
      have told := document_reports restores tells reports reference reaches asks _ rfl
        (inside.entered loaded)
      unfold Compile.ReportsFrom at told
      rw [external_of_loaded cyclic loaded]
      dsimp only [left]
      exact noted.trans told

theorem resolve_reports {reference : String}
    (reaches : source.Reaches loader outer position (.obj members))
    (named : members.get? "$ref" = some (.str reference)) :
    (resolve loader compile reference).Reports loader source registry outer position := by
  intro state place inside
  refine .bind (.note trivial) fun _ middle ran => ?_
  cases ran
  have noted := inside.noting [.resolving reference state.position]
  split
  · split
    · exact Definitions.resolve_reports reports _ _ _ place noted
    · exact .fail _
  · next outside =>
    exact external_reports restores tells reports reaches named outside _ place noted

end Reference

namespace Node

variable {compile : NodeCompiler} {depth : Nat} {members : Members}

theorem object_reports (restores : compile.Restores) (tells : compile.Tells loader depth)
    (reports : compile.Reports loader source registry)
    (reaches : source.Reaches loader outer position (.obj members)) :
    (object loader compile members).Reports loader source registry outer position := by
  unfold object
  split
  · next named => exact Reference.resolve_reports restores tells reports reaches named
  · exact fun _ _ _ => .fail _
  · next plain =>
    intro state place inside
    have nothing : (noteIgnored members ignoredKeywords).Visits fun _ _ => False :=
      noteIgnored_visits
    refine .bind_inside inside (Plan.run_restores restores _)
      (Plan.run_tells tells (Nat.le_refl 0) (Nat.zero_le depth) _)
      (Plan.run_reports restores tells reports nothing (fun _ _ => False.elim) state place inside)
      fun _ middle _ inside' place' => ?_
    refine Definitions.within_reports restores tells reports (fun _ => .node reaches plain)
      (fun entries read => ?_) middle (place'.trans place) inside'
    exact Plan.run_reports restores tells reports body_visits fun path node part =>
      .part reaches plain read part

/-- A node is noted, and noted again with its type, which it denotes where it stands. -/
theorem compile_reports (loader : Loader) (depth : Nat) :
    (Node.compile loader depth).Reports loader source registry := by
  induction depth with
  | zero => exact fun _ _ _ _ _ _ _ => .refl _
  | succ depth ih =>
    rintro enclosures position node reaches state rfl inside
    have restores := compile_restores loader depth
    have tells := compile_tells loader depth
    have visited {failed : Bool} : Event.Extends loader source registry failed state.journal
        (state.visiting node).journal := .cons trivial
    have entered : State.Inside loader source registry enclosures (state.visiting node) :=
      inside.noting [.visited state.position node]
    cases node with
    | obj members =>
      have whole : (do
          let ty ← object loader (Node.compile loader depth) members
          Compile.note (.compiled · (.obj members) ty)
          pure ty : Compile Ty).ReportsFrom loader source registry
            (state.visiting (.obj members)) := by
        refine (object_reports restores tells ih reaches (state.visiting (.obj members)) rfl
          entered).bind fun ty middle ran => ?_
        obtain ⟨-, place, denoted⟩ := entered.after (object_restores loader restores members)
          (object_tells restores tells (Nat.le_refl 0) (Nat.zero_le depth) members) ran
        refine .bind (.note ?_) fun _ _ _ => .pure ty
        rw [place]
        exact ⟨enclosures, reaches, Denotes.of_outline denoted⟩
      exact visited.trans whole
    | _ => exact visited

end Node

/-- Every event of a compilation tells what is so. -/
theorem Compilation.run_reports (loader : Loader) (source : Source) (registry : Registry) :
    ∀ event ∈ (run loader source registry).events, event.Explained loader source registry
      (Compile.isFailure (compile loader source registry)) (run loader source registry).events := by
  have told : (start loader source).ReportsFrom loader source registry (.start registry) := by
    cases source with
    | inline schema =>
      exact Node.compile_reports loader _ [] _ schema (.inline rfl) _ rfl (.start registry)
    | location location =>
      cases loaded : loader.load location with
      | error error =>
        unfold start Compile.ReportsFrom
        rw [startWithin_unloaded loaded]
        exact .cons trivial
      | ok root =>
        have noted : Event.Extends loader (.location location) registry false []
            (Reference.entered loader location (.start registry)).journal := .cons trivial
        have whole := Node.compile_reports loader (depth loader root) [] _ root
          (.location rfl loaded) _ rfl ((State.Inside.start registry).entered loaded)
        unfold Compile.ReportsFrom at whole
        unfold start Compile.ReportsFrom
        rw [startWithin_location loaded]
        exact noted.trans whole
  intro event member
  have added := (told.told event (List.mem_reverse.mp member)).resolve_left List.not_mem_nil
  exact added.mono id fun _ => List.mem_reverse.mpr

end SchemaTypes
