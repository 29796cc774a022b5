import SchemaTypes.Proofs.Dependency
import SchemaTypes.Proofs.Failing
import SchemaTypes.Proofs.Reading

/-! Cycles of definitions. A name is marked while its body is compiled, and a reference that comes to a
mark is reported as a cycle. The mark is on the slot of one definition: wherever it is found, the
definition that it stands for has led there. So every cycle that is reported is one, and no cycle is
compiled. -/
namespace SchemaTypes

variable {spot spot' : Spot} {occurrence other : Occurrence}

/-- A definition needs, along some way, one whose body has a spot to be visited. -/
def Occurrence.LeadsTo (occurrence : Occurrence) (spot : Spot) : Prop :=
  ∃ last, Relation.ReflTransGen Occurrence.DependsOn occurrence last ∧ last.body.Visits spot

namespace Occurrence.LeadsTo

theorem self : occurrence.LeadsTo occurrence.body := ⟨occurrence, .refl, .refl⟩

theorem step (leads : occurrence.LeadsTo spot) (steps : spot.Steps spot') :
    occurrence.LeadsTo spot' := by
  obtain ⟨last, along, visits⟩ := leads
  exact ⟨last, along, visits.tail steps⟩

theorem needs (leads : occurrence.LeadsTo spot) (needs : spot.Needs other) :
    occurrence.LeadsTo other.body := by
  obtain ⟨last, along, visits⟩ := leads
  exact ⟨other, along.tail ⟨spot, visits, needs⟩, .refl⟩

/-- A definition that leads to a spot where it is needed depends on itself. -/
theorem cycle (leads : occurrence.LeadsTo spot) (needs : spot.Needs occurrence) :
    Relation.TransGen Occurrence.DependsOn occurrence occurrence := by
  obtain ⟨last, along, visits⟩ := leads
  exact .tail' along ⟨spot, visits, needs⟩

end Occurrence.LeadsTo

/-! ## References in the schema -/

/-- All references at a spot, and in the definitions around it, begin with a hash. -/
structure Spot.Local (spot : Spot) : Prop where
  node : spot.node.Local
  entries : ∀ enclosure ∈ spot.enclosures, ∀ entry ∈ enclosure.entries, entry.node.Local

theorem Enclosure.Finds.local {enclosures : List Enclosure} {name : String}
    (finds : Enclosure.Finds enclosures name occurrence)
    (every : ∀ enclosure ∈ enclosures, ∀ entry ∈ enclosure.entries, entry.node.Local) :
    occurrence.body.Local := by
  induction finds with
  | here counts => exact ⟨every _ List.mem_cons_self _ counts.mem, every⟩
  | further _ _ ih => exact ih (List.forall_mem_cons.mp every).2

namespace Spot.Local

theorem around {outer : List Enclosure} {position : Position} {members : Members}
    {entries : List Definitions.Entry} (isLocal : Spot.Local ⟨outer, position, .obj members⟩)
    (read : Definitions.entries members = .ok entries) :
    ∀ enclosure ∈ Enclosure.around position entries outer, ∀ entry ∈ enclosure.entries,
      entry.node.Local := by
  unfold Enclosure.around
  split
  · exact isLocal.entries
  · exact List.forall_mem_cons.mpr ⟨isLocal.node.entry read, isLocal.entries⟩

theorem step (isLocal : spot.Local) (steps : spot.Steps spot') : spot'.Local := by
  obtain ⟨-, read, visited⟩ := steps
  exact ⟨isLocal.node.part visited.part, isLocal.around read⟩

theorem needs (isLocal : spot.Local) (needs : spot.Needs occurrence) : occurrence.body.Local := by
  rcases needs with ⟨reference, refers⟩ | declares
  · obtain ⟨-, -, finds⟩ := refers
    exact finds.local isLocal.entries
  · obtain ⟨-, read, counts⟩ := declares
    have entries := isLocal.node.entry read
    exact ⟨entries _ counts.mem, List.forall_mem_cons.mpr ⟨entries, isLocal.entries⟩⟩

end Spot.Local

theorem Spot.Reached.local {schema : Json} (reached : Reached schema spot)
    (isLocal : schema.Local) : spot.Local := by
  induction reached with
  | root => exact ⟨isLocal, by simp⟩
  | step _ steps ih => exact ih.step steps
  | body _ needs ih => exact ih.needs needs

/-! ## Marks -/

/-- What the slot of a definition can hold: its type, its body, or a mark, when the definition has led
to where the compilation is. -/
def Slot.Serves (leads : Occurrence → Prop) (occurrence : Occurrence) : Slot → Prop
  | .ready _ => True
  | .pending definition => definition = ⟨occurrence.body.node, occurrence.body.position⟩
  | .compiling => leads occurrence

namespace Slot.Serves

variable {leads leads' : Occurrence → Prop} {slot slot' : Slot} {events : List Event}

theorem imp (serves : slot.Serves leads occurrence)
    (weaker : ∀ occurrence, leads occurrence → leads' occurrence) :
    slot.Serves leads' occurrence := by
  cases slot with
  | ready => trivial
  | pending definition => exact serves
  | compiling => exact weaker occurrence serves

theorem lasts (serves : slot.Serves leads occurrence)
    (moved : Slot.Settles false events slot slot') : slot'.Serves leads occurrence := by
  cases moved with
  | same => exact serves
  | filled => trivial
  | broken failed => cases failed

end Slot.Serves

/-- The layers of a scope are those of enclosures, slot by slot, with known types outside of them. -/
inductive Scope.Frames (leads : Occurrence → Prop) : List Enclosure → Scope → Prop where
  | known {scope : Scope} : scope.Settled → Frames leads [] scope
  | block {enclosure : Enclosure} {outer : List Enclosure} {layer : Layer} {rest : Scope} :
      Keyed.Aligned (fun entry slot => Slot.Serves leads ⟨outer, enclosure, entry⟩ slot)
        (Keyed.ofPairs (enclosure.entries.map fun entry => (entry.name, entry))) layer.slots →
      Frames leads outer rest → Frames leads (enclosure :: outer) (layer :: rest)

namespace Scope.Frames

variable {leads leads' : Occurrence → Prop} {enclosures outer : List Enclosure} {scope hidden rest : Scope}
  {layer : Layer} {name : String} {slot : Slot}

theorem imp (frames : Frames leads enclosures scope)
    (weaker : ∀ occurrence, leads occurrence → leads' occurrence) :
    Frames leads' enclosures scope := by
  induction frames with
  | known settled => exact .known settled
  | block aligned _ ih =>
    refine .block (aligned.imp fun _ _ ⟨same, serves⟩ => ⟨same, ?_⟩) ih
    exact serves.imp weaker

theorem lasting : Scope.Lasting (Frames leads enclosures) := by
  intro events before after settled frames
  induction frames generalizing after with
  | known ready => exact .known (settled.eq_of_settled ready ▸ ready)
  | block aligned _ ih =>
    cases settled with
    | cons head tail =>
      exact .block (aligned.trans head.slots fun _ _ _ => Slot.Serves.lasts) (ih _ tail)

/-- A name that does not stand for a known type is that of a definition. The layers from its own on are
those of the enclosures around the definition's body. -/
theorem find (frames : Frames leads enclosures (hidden ++ layer :: rest))
    (shadowless : ∀ inner ∈ hidden, inner.slots.lookup name = none)
    (stands : layer.slots.lookup name = some slot) (unready : ∀ ty, slot ≠ .ready ty) :
    ∃ occurrence, Enclosure.Finds enclosures name occurrence ∧ slot.Serves leads occurrence ∧
      Frames leads occurrence.body.enclosures (layer :: rest) := by
  induction hidden generalizing enclosures with
  | nil =>
    cases frames with
    | known ready =>
      obtain ⟨ty, known⟩ := ready layer List.mem_cons_self _ (Keyed.mem_of_lookup stands)
      exact (unready ty known).elim
    | @block enclosure outer _ _ aligned below =>
      obtain ⟨entry, found, serves⟩ := aligned.flip.lookup stands
      obtain ⟨counts, rfl⟩ := Definitions.counts_of_lookup found
      exact ⟨_, .here counts, serves, .block aligned below⟩
  | cons inner hidden ih =>
    obtain ⟨absent, shadowless⟩ := List.forall_mem_cons.mp shadowless
    cases frames with
    | known ready =>
      obtain ⟨ty, known⟩ := ready layer (by simp) _ (Keyed.mem_of_lookup stands)
      exact (unready ty known).elim
    | @block enclosure outer _ _ aligned below =>
      obtain ⟨occurrence, finds, serves, frames⟩ := ih below shadowless
      refine ⟨occurrence, .further (fun names => ?_) finds, serves, frames⟩
      obtain ⟨entry, counts, rfl⟩ := Definitions.exists_counts names
      obtain ⟨slot, found, -⟩ := aligned.lookup (counts.lookup id)
      rw [absent] at found
      cases found

/-- A definition that leads to where the compilation goes can be marked. -/
theorem mark (frames : Frames leads occurrence.body.enclosures (layer :: rest))
    (finds : Enclosure.Finds enclosures name occurrence) (fits : leads occurrence) :
    Frames leads occurrence.body.enclosures (layer.set name .compiling :: rest) := by
  obtain ⟨counts, rfl⟩ := finds.counts
  cases frames with
  | block aligned below => exact .block (aligned.insert_right (counts.lookup id) fits) below

/-- The bodies of a node wait in its block. -/
theorem entering (frames : Frames leads outer scope) (position : Position)
    (entries : List Definitions.Entry) (number : Nat) :
    Frames leads (⟨position, entries⟩ :: outer)
      (⟨number, Definitions.slots position entries⟩ :: scope) :=
  .block (.ofPairs fun _ _ => rfl) frames

theorem ofRegistry (registry : Registry) : Frames leads [] (State.start registry).scope :=
  .known (Scope.settled_ofRegistry registry)

end Scope.Frames

/-! ## Reports of cycles -/

/-- An error about a cycle comes from a reachable node with a reference to a definition that depends on
itself. -/
def CompileError.Circular (schema : Json) (error : CompileError) : Prop :=
  ∀ reference position, error = .cyclicReference reference position →
    ∃ spot occurrence, Spot.Reached schema spot ∧ spot.position = position ∧
      spot.RefersTo reference occurrence ∧
      Relation.TransGen Occurrence.DependsOn occurrence occurrence

/-- A compiler that reports cycles only where they are, of the definitions that have led to a spot. -/
def NodeCompiler.Truthful (schema : Json) (compile : NodeCompiler) : Prop :=
  ∀ spot, Spot.Reached schema spot →
    (compile spot.node).FailsIn (CompileError.Circular schema) spot.position
      (Scope.Frames (·.LeadsTo spot) spot.enclosures)

section

variable {schema : Json} {compile : NodeCompiler} {name reference : String}
  {enclosures : List Enclosure}

theorem CompileError.allowsOthers_circular : AllowsOthers (Circular schema) := by
  rintro _ other _ _ rfl
  cases other

/-- The body of a definition that a spot needs is compiled with the definition marked, which leads
there. -/
theorem Definitions.demands_truthful (truthful : compile.Truthful schema)
    (reached : Spot.Reached schema spot)
    (needed : ∀ occurrence, Enclosure.Finds enclosures name occurrence → spot.Needs occurrence) :
    Demands (CompileError.Circular schema) spot.position
      (Scope.Frames (·.LeadsTo spot) enclosures) compile name := by
  intro state _ frames hidden outer layer definition parts shadowless waits
  rw [parts] at frames
  obtain ⟨occurrence, finds, serves, below⟩ := frames.find shadowless waits (by simp)
  cases serves
  have needs := needed occurrence finds
  have led : Scope.Frames (·.LeadsTo occurrence.body) occurrence.body.enclosures (layer :: outer) :=
    below.imp fun _ leads => leads.needs needs
  exact truthful occurrence.body (.body reached needs) _ rfl (led.mark finds .self)

namespace Node

variable {outer : List Enclosure} {position : Position} {members : Members} {loader : Loader}

theorem reference_truthful (truthful : compile.Truthful schema)
    (reached : Spot.Reached schema ⟨enclosures, position, .obj members⟩)
    (isLocal : Spot.Local ⟨enclosures, position, .obj members⟩)
    (named : members.get? "$ref" = some (.str reference)) :
    (Reference.resolve loader compile reference).FailsIn (CompileError.Circular schema) position
      (Scope.Frames (·.LeadsTo ⟨enclosures, position, .obj members⟩) enclosures) := by
  have unresolved : CompileError.Circular schema (.unresolvedReference reference position) := by
    rintro _ _ ⟨⟩
  obtain ⟨fragment, inside⟩ := isLocal.node.reference named
  refine .after_note ?_
  rw [inside]
  dsimp only
  split
  · next name definition =>
    have refers (occurrence : Occurrence) (finds : Enclosure.Finds enclosures name occurrence) :
        Spot.RefersTo ⟨enclosures, position, .obj members⟩ reference occurrence :=
      .intro named (Reference.names_iff.mpr ⟨fragment, inside, definition⟩) finds
    refine Definitions.resolve_fails (Definitions.demands_truthful truthful reached
      fun occurrence finds => .inl ⟨reference, refers occurrence finds⟩) (fun _ _ _ => unresolved) ?_
    -- A mark is that of a definition which has led here, and here it is referred to.
    rintro scope binding frames found marked _ _ ⟨⟩
    obtain ⟨hidden, layer, rest, rfl, -, -, slot, shadowless⟩ := Scope.located found
    obtain ⟨occurrence, finds, leads, -⟩ := frames.find shadowless slot (by simp [marked])
    rw [marked] at leads
    exact ⟨_, occurrence, reached, rfl, refers occurrence finds,
      leads.cycle (.inl ⟨reference, refers occurrence finds⟩)⟩
  · exact .fail unresolved

theorem object_truthful (restores : compile.Restores) (truthful : compile.Truthful schema)
    (reached : Spot.Reached schema ⟨outer, position, .obj members⟩)
    (isLocal : Spot.Local ⟨outer, position, .obj members⟩) :
    (object loader compile members).FailsIn (CompileError.Circular schema) position
      (Scope.Frames (·.LeadsTo ⟨outer, position, .obj members⟩) outer) := by
  have others : CompileError.AllowsOthers (CompileError.Circular schema) :=
    CompileError.allowsOthers_circular
  have lasts (entries : List Definitions.Entry) :
      Scope.Lasting (Scope.Frames (·.LeadsTo ⟨outer, position, .obj members⟩)
        (Enclosure.around position entries outer)) := Scope.Frames.lasting
  unfold object
  split
  · next reference named => exact reference_truthful truthful reached isLocal named
  · exact .fail (others.fault rfl)
  · next plain =>
    refine .bind Scope.Frames.lasting (Plan.run_restores restores _) ?_ fun _ _ => ?_
    · exact Plan.run_fails Scope.Frames.lasting others restores noteIgnored_visits
        noteIgnored_noReference fun _ _ => False.elim
    · refine Definitions.within_fails others restores Scope.Frames.lasting lasts (fun _ => id) ?_ ?_ ?_
      · intro entries _ some number scope frames
        rw [Enclosure.around, if_neg (by simpa using some)]
        exact frames.entering position entries number
      · intro entries read entry member
        refine Definitions.demands_truthful truthful reached fun occurrence finds => .inr ?_
        rw [Enclosure.around, if_neg (by simpa using List.ne_nil_of_mem member)] at finds
        obtain ⟨other, counts, rfl⟩ := finds.innermost ⟨entry, member, rfl⟩
        exact .intro plain read counts
      · intro entries read
        refine Plan.run_fails (lasts entries) others restores body_visited body_noReference ?_
        intro path node visited
        have steps : Spot.Steps ⟨outer, position, .obj members⟩
            ⟨Enclosure.around position entries outer, position.below path, node⟩ :=
          .part plain read visited
        exact (truthful _ (.step reached steps)).imp fun scope frames =>
          frames.imp fun occurrence leads => leads.step steps

theorem step_truthful (isLocal : schema.Local) (restores : compile.Restores)
    (truthful : compile.Truthful schema) : NodeCompiler.Truthful schema (step loader compile) := by
  rintro ⟨outer, position, node⟩ reached
  refine .after_note ?_
  cases node with
  | obj members =>
    refine .bind Scope.Frames.lasting (object_restores loader restores members)
      (object_truthful restores truthful reached (reached.local isLocal)) fun ty _ => ?_
    exact .after_note (.pure ty)
  | _ => exact .fail (CompileError.allowsOthers_circular.fault rfl)

theorem compile_truthful (isLocal : schema.Local) (loader : Loader) (depth : Nat) :
    NodeCompiler.Truthful schema (Node.compile loader depth) := by
  induction depth with
  | zero => exact fun _ _ => .raise (CompileError.allowsOthers_circular _ rfl)
  | succ depth ih => exact step_truthful isLocal (compile_restores loader depth) ih

end Node

end

/-- A cycle is reported at a reference to a definition that depends on itself, and a schema that leads
to such a definition has no type. -/
theorem compile_reports_cycles {schema : Json} (isLocal : schema.Local) (loader : Loader)
    (registry : Registry) :
    (∀ reference position,
      compile loader (.inline schema) registry = .error (.cyclicReference reference position) →
      ∃ spot occurrence, Spot.Reached schema spot ∧ spot.position = position ∧
        spot.RefersTo reference occurrence ∧
        Relation.TransGen Occurrence.DependsOn occurrence occurrence) ∧
    ∀ spot occurrence, Spot.Reached schema spot → spot.Needs occurrence →
      Relation.TransGen Occurrence.DependsOn occurrence occurrence →
      ∀ ty, compile loader (.inline schema) registry ≠ .ok ty := by
  constructor
  · intro reference position failed
    have truthful := Node.compile_truthful isLocal loader (Compilation.depth loader schema)
    exact truthful _ .root (State.start registry) rfl (.ofRegistry registry) _ failed reference
      position rfl
  · intro spot occurrence reached needs cycle ty compiled
    have denoted := (CompilesTo.of_compile compiled (by simp)).denotes
    obtain ⟨height, has⟩ := reached.has denoted
    exact ((has.mono (Nat.le_succ height)).needs needs).acyclic cycle

/-- Lists of lists of lists, without end. -/
def endlessLists : Json :=
  .obj [("definitions", .obj [("n", .obj [("type", .str "array"),
      ("items", .obj [("$ref", .str "#/definitions/n")])])]),
    ("type", .str "array"), ("items", .obj [("$ref", .str "#/definitions/n")])]

theorem endlessLists_local : endlessLists.Local := by
  have reference : Json.Local (.obj [("$ref", .str "#/definitions/n")]) := .single (by decide)
  have body : Json.Local (.obj [("type", .str "array"),
      ("items", .obj [("$ref", .str "#/definitions/n")])]) := by
    refine .of_parts rfl rfl rfl rfl rfl ?_ (by rintro _ ⟨⟩)
    rintro _ ⟨⟩
    exact reference
  exact .array (List.forall_mem_singleton.mpr body) reference

/-- A cycle was reported, at a position with a certain text. -/
def CompileError.isCyclic (reference text : String) : Except CompileError Ty → Bool
  | .error (.cyclicReference found position) => found == reference && position.text == text
  | _ => false

theorem CompileError.exists_of_isCyclic {reference text : String} {outcome : Except CompileError Ty}
    (told : isCyclic reference text outcome = true) :
    ∃ position, outcome = .error (.cyclicReference reference position) ∧ position.text = text := by
  unfold isCyclic at told
  split at told
  · next found position =>
    simp only [Bool.and_eq_true, beq_iff_eq] at told
    obtain ⟨rfl, text⟩ := told
    exact ⟨position, rfl, text⟩
  · cases told

theorem compile_reports_cycles_endlessLists :
    ∃ position spot occurrence,
      compile Bundle.empty.loader (.inline endlessLists) .empty =
        .error (.cyclicReference "#/definitions/n" position) ∧
      position.text = "#/definitions/n/items" ∧ Spot.Reached endlessLists spot ∧
      spot.position = position ∧ spot.RefersTo "#/definitions/n" occurrence ∧
      Relation.TransGen Occurrence.DependsOn occurrence occurrence ∧
      ∀ ty, compile Bundle.empty.loader (.inline endlessLists) .empty ≠ .ok ty := by
  obtain ⟨position, failed, text⟩ := CompileError.exists_of_isCyclic
    (show CompileError.isCyclic "#/definitions/n" "#/definitions/n/items"
      (compile Bundle.empty.loader (.inline endlessLists) .empty) = true by decide +kernel)
  obtain ⟨reports, refuses⟩ :=
    compile_reports_cycles endlessLists_local Bundle.empty.loader .empty
  obtain ⟨spot, occurrence, reached, here, refers, cycle⟩ := reports _ position failed
  exact ⟨position, spot, occurrence, failed, text, reached, here, refers, cycle,
    refuses spot occurrence reached (.inl ⟨_, refers⟩) cycle⟩

end SchemaTypes
