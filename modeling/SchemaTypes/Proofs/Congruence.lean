import SchemaTypes.Proofs.Alike
import SchemaTypes.Proofs.Harvest

/-! What relates two runs of a compilation. A relation between computations that is kept by each way
of putting them together, and that holds between what two compilations do with names, blocks and
documents, holds between the compilations of nodes that match. -/
namespace SchemaTypes

/-! ## Nodes that match -/

namespace Definitions

/-- Entries of one name in blocks of one keyword, with related bodies. -/
structure Entry.Matching (related : Json → Json → Prop) (entry entry' : Entry) : Prop where
  keyword : entry'.keyword = entry.keyword
  name : entry'.name = entry.name
  node : related entry.node entry'.node

/-- Blocks that cannot be read for one reason, or have matching entries in one order. -/
inductive Matching (related : Json → Json → Prop) :
    Except Fault (List Entry) → Except Fault (List Entry) → Prop where
  | unread (fault : Fault) : Matching related (.error fault) (.error fault)
  | read {entries entries' : List Entry} : List.Forall₂ (Entry.Matching related) entries entries' →
      Matching related (.ok entries) (.ok entries')

variable {related : Json → Json → Prop}

theorem Entry.Matching.refl (reflexive : ∀ node, related node node) (entry : Entry) :
    entry.Matching related entry :=
  ⟨rfl, rfl, reflexive _⟩

theorem Entry.Matching.reference_eq {entry entry' : Entry} (same : entry.Matching related entry') :
    entry'.reference = entry.reference := by
  unfold Entry.reference
  rw [same.keyword, same.name]

theorem matching_refl (reflexive : ∀ node, related node node) (entries : List Entry) :
    List.Forall₂ (Entry.Matching related) entries entries :=
  List.forall₂_same.mpr fun entry _ => .refl reflexive entry

theorem Matching.refl (reflexive : ∀ node, related node node)
    (outcome : Except Fault (List Entry)) : Matching related outcome outcome := by
  cases outcome with
  | error fault => exact .unread fault
  | ok entries => exact .read (matching_refl reflexive entries)

end Definitions

/-- Objects that refer to the same, or say the same but for parts and definitions that are related. -/
structure Node.Matching (related : Json → Json → Prop) (members members' : Members) : Prop where
  reference : members'.get? "$ref" = members.get? "$ref"
  body : members.get? "$ref" = none → Node.Alike related members members'
  definitions : members.get? "$ref" = none →
    Definitions.Matching related (Definitions.entries members) (Definitions.entries members')

/-- A relation between nodes that are compiled step by step alike. -/
structure Json.Matching (related : Json → Json → Prop) : Prop where
  reflexive : ∀ node, related node node
  object : ∀ {members node'}, related (.obj members) node' →
    ∃ members', node' = .obj members' ∧ Node.Matching related members members'
  other : ∀ {node node'}, node.object? = none → related node node' → node'.object? = none

/-- A node matches itself. -/
theorem Json.Matching.eq : Json.Matching Eq where
  reflexive _ := rfl
  object := by
    rintro members _ rfl
    exact ⟨members, rfl, rfl, fun _ => .of_definitions (fun _ => rfl) fun _ _ => rfl,
      fun _ => .refl (fun _ => rfl) _⟩
  other := by
    rintro node _ none rfl
    exact none

namespace Compile

/-- A relation between computations that have the same kind of result. -/
abbrev Relation : Type 1 := (α : Type) → Compile α → Compile α → Prop

end Compile

/-- Events that do not tell what a name stands for. -/
def Event.Unresolving (event : Position → Event) : Prop :=
  ∀ position block name ty, event position ≠ .resolved block name ty

/-- What a relation has to keep so that compilations of related nodes with two loaders are related. -/
structure Compile.Congruence (R : Relation) (related : Json → Json → Prop)
    (loader loader' : Loader) : Prop where
  nodes : Json.Matching related
  pure : ∀ {α : Type} (a : α), R α (Pure.pure a) (Pure.pure a)
  raise : ∀ {α : Type} (error : CompileError), R α (Compile.raise error) (Compile.raise error)
  fail : ∀ {α : Type} (fault : Fault), R α (Compile.fail fault) (Compile.fail fault)
  /-- What one side notes the other need not. -/
  noteLeft : ∀ {α : Type} {event : Position → Event} {body body' : Compile α},
    Event.Unresolving event → R α body body' → R α (do Compile.note event; body) body'
  noteRight : ∀ {α : Type} {event : Position → Event} {body body' : Compile α},
    Event.Unresolving event → R α body body' → R α body (do Compile.note event; body')
  bind : ∀ {α β : Type} {body body' : Compile α} {next next' : α → Compile β}, R α body body' →
    (∀ a, R β (next a) (next' a)) → R β (body >>= next) (body' >>= next')
  under : ∀ {α : Type} (segments : List String) {body body' : Compile α}, R α body body' →
    R α (Compile.under segments body) (Compile.under segments body')
  /-- A part of the document, compiled on its own. -/
  part : ∀ {α : Type} (path : List String) {body body' : Compile α}, R α body body' →
    R α (do let position ← Compile.read (·.position); Compile.within { position with path } body)
      (do let position ← Compile.read (·.position); Compile.within { position with path } body')
  block : ∀ {α : Type} {entries entries' : List Definitions.Entry} {body body' : Compile α},
    List.Forall₂ (Definitions.Entry.Matching related) entries entries' → R α body body' →
    R α (do
        let position ← Compile.read (·.position)
        Compile.withLayer (Definitions.slots position entries) body)
      (do
        let position ← Compile.read (·.position)
        Compile.withLayer (Definitions.slots position entries') body')
  resolve : ∀ (depth : Nat) (name reference : String),
    (∀ {node node'}, related node node' →
      R Ty (Node.compile loader depth node) (Node.compile loader' depth node')) →
    R Ty (Definitions.resolve (Node.compile loader depth) name reference)
      (Definitions.resolve (Node.compile loader' depth) name reference)
  external : ∀ (depth : Nat) (reference : String),
    (∀ fragment document,
      R Ty (Reference.document (Node.compile loader depth) reference fragment document)
        (Reference.document (Node.compile loader' depth) reference fragment document)) →
    R Ty (Reference.external loader (Node.compile loader depth) reference)
      (Reference.external loader' (Node.compile loader' depth) reference)

namespace Compile.Congruence

variable {R : Relation} {related : Json → Json → Prop} {loader loader' : Loader} {depth : Nat}
  {entries entries' : List Definitions.Entry} {members members' : Members} {node node' : Json}

theorem note {event event' : Position → Event} (closed : Congruence R related loader loader')
    (unresolving : Event.Unresolving event) (unresolving' : Event.Unresolving event') :
    R Unit (Compile.note event) (Compile.note event') :=
  closed.noteLeft unresolving (closed.noteRight unresolving' (closed.pure ()))

/-- Plans that are alike are carried out alike. -/
theorem run {α : Type} {compile compile' : NodeCompiler} {plan plan' : Plan α}
    (closed : Congruence R related loader loader')
    (compiles : ∀ {node node'}, related node node' → R Ty (compile node) (compile' node'))
    (alike : plan.Alike related plan') : R α (plan.run compile) (plan'.run compile') := by
  have remarked (remark : Remark) : Event.Unresolving (.ignored remark) := by
    simp [Event.Unresolving]
  induction alike with
  | done a => exact closed.pure a
  | fail fault => exact closed.fail fault
  | note remark => exact closed.note (remarked _) (remarked _)
  | visit same => exact compiles same
  | under segments _ ih => exact closed.under segments ih
  | andThen _ _ firstIH nextIH => exact closed.bind firstIH nextIH
  | known _ ih => exact ih
  | stopped fault => exact closed.fail fault
  | remarkLeft remark _ ih => exact closed.noteLeft (remarked remark) ih
  | remarkRight remark _ ih => exact closed.noteRight (remarked remark) ih

variable (closed : Congruence R related loader loader')
  (compiles : ∀ {node node'}, related node node' →
    R Ty (Node.compile loader depth node) (Node.compile loader' depth node'))

include closed compiles

theorem resolveAll (same : List.Forall₂ (Definitions.Entry.Matching related) entries entries') :
    R Unit (Definitions.resolveAll (Node.compile loader depth) entries)
      (Definitions.resolveAll (Node.compile loader' depth) entries') := by
  induction same with
  | nil => exact closed.pure ()
  | @cons entry entry' _ _ first _ ih =>
    unfold Definitions.resolveAll
    rw [first.name, first.reference_eq]
    exact closed.bind (closed.resolve depth _ _ compiles) fun _ => ih

theorem within {α : Type} {body body' : Compile α}
    (definitions :
      Definitions.Matching related (Definitions.entries members) (Definitions.entries members'))
    (inside : R α body body') :
    R α (Definitions.within (Node.compile loader depth) members body)
      (Definitions.within (Node.compile loader' depth) members' body') := by
  generalize read : Definitions.entries members = outcome,
    read' : Definitions.entries members' = outcome' at definitions
  cases definitions with
  | unread fault =>
    unfold Definitions.within
    rw [read, read']
    exact closed.fail fault
  | read same =>
    cases same with
    | nil =>
      rw [Definitions.within_of_nil read, Definitions.within_of_nil read']
      exact inside
    | cons first rest =>
      rw [Definitions.within_of_cons read, Definitions.within_of_cons read']
      refine closed.bind (closed.note (by simp [Event.Unresolving]) (by simp [Event.Unresolving]))
        fun _ => ?_
      refine closed.block (.cons first rest) ?_
      exact closed.bind (closed.resolveAll compiles (.cons first rest)) fun _ => inside

theorem document (reference fragment : String) (document : Json) :
    R Ty (Reference.document (Node.compile loader depth) reference fragment document)
      (Reference.document (Node.compile loader' depth) reference fragment document) := by
  have itself (node : Json) := compiles (closed.nodes.reflexive node)
  unfold Reference.document
  split
  · exact itself document
  · split
    · refine closed.within compiles (.refl closed.nodes.reflexive _) ?_
      split
      · exact closed.resolve depth _ _ compiles
      · split
        · exact closed.part _ (itself _)
        · exact closed.fail _
    · exact closed.fail _

theorem reference (reference : String) :
    R Ty (Reference.resolve loader (Node.compile loader depth) reference)
      (Reference.resolve loader' (Node.compile loader' depth) reference) := by
  refine closed.bind (closed.note (by simp [Event.Unresolving]) (by simp [Event.Unresolving]))
    fun _ => ?_
  split
  · split
    · exact closed.resolve depth _ _ compiles
    · exact closed.fail _
  · exact closed.external depth reference (closed.document compiles reference)

theorem object (same : Node.Matching related members members') :
    R Ty (Node.object loader (Node.compile loader depth) members)
      (Node.object loader' (Node.compile loader' depth) members') := by
  unfold Node.object
  rw [same.reference]
  split
  · exact closed.reference compiles _
  · exact closed.fail _
  · next plain =>
    refine closed.bind (closed.run compiles (Node.noteIgnored_alike _)) fun _ => ?_
    exact closed.within compiles (same.definitions plain)
      (closed.run compiles ((same.body plain).body closed.nodes.reflexive))

omit compiles

/-- Compilations of related nodes are related at every depth. -/
theorem compile (depth : Nat) {node node' : Json} (same : related node node') :
    R Ty (Node.compile loader depth node) (Node.compile loader' depth node') := by
  induction depth generalizing node node' with
  | zero => exact closed.raise _
  | succ depth ih =>
    refine closed.bind (closed.note (by simp [Event.Unresolving]) (by simp [Event.Unresolving]))
      fun _ => ?_
    cases node with
    | obj members =>
      obtain ⟨members', rfl, matching⟩ := closed.nodes.object same
      refine closed.bind (closed.object ih matching) fun ty => ?_
      exact closed.bind (closed.note (by simp [Event.Unresolving]) (by simp [Event.Unresolving]))
        fun _ => closed.pure ty
    | _ =>
      have none := closed.nodes.other rfl same
      cases node' with
      | obj => cases none
      | _ => exact closed.fail _

end Compile.Congruence

end SchemaTypes
