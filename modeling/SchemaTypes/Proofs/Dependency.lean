import Mathlib.Logic.Relation
import SchemaTypes.Proofs.Enclosure
import SchemaTypes.Proofs.Ordering

/-! Which definitions of a schema need which. A definition is a body in its place, inside of certain
nodes, and it needs another one when its body has a node that refers to the other or declares it. What
needs itself along some way has no type: on the way from a node to what it needs, derivations get
lower. -/
namespace SchemaTypes

/-- A node in its place, with the enclosures around it, innermost first. -/
structure Spot where
  enclosures : List Enclosure
  position : Position
  node : Json

/-- One entry of a node, and the enclosures around that node. -/
structure Occurrence where
  outer : List Enclosure
  enclosure : Enclosure
  entry : Definitions.Entry

/-- The body of a definition, inside of the node that declares it. -/
def Occurrence.body (occurrence : Occurrence) : Spot where
  enclosures := occurrence.enclosure :: occurrence.outer
  position := occurrence.enclosure.position.below [occurrence.entry.keyword, occurrence.entry.name]
  node := occurrence.entry.node

/-- The definition that a name stands for inside of enclosures: the entry that counts in the innermost
one that has the name. -/
inductive Enclosure.Finds : List Enclosure → String → Occurrence → Prop where
  | here {enclosure : Enclosure} {outer : List Enclosure} {entry : Definitions.Entry} :
      Definitions.Counts enclosure.entries entry →
      Finds (enclosure :: outer) entry.name ⟨outer, enclosure, entry⟩
  | further {enclosure : Enclosure} {outer : List Enclosure} {name : String}
      {occurrence : Occurrence} : ¬enclosure.Names name → Finds outer name occurrence →
      Finds (enclosure :: outer) name occurrence

namespace Spot

/-- The parts that are compiled for the body of a node. -/
inductive Steps : Spot → Spot → Prop where
  | part {outer : List Enclosure} {position : Position} {members : Members}
      {entries : List Definitions.Entry} {path : List String} {node : Json} :
      members.get? "$ref" = none → Definitions.entries members = .ok entries →
      Node.Visited members path node →
      Steps ⟨outer, position, .obj members⟩
        ⟨Enclosure.around position entries outer, position.below path, node⟩

/-- What is compiled for a node, but for definitions. -/
abbrev Visits : Spot → Spot → Prop := Relation.ReflTransGen Steps

/-- A node with a reference that stands for a definition. -/
inductive RefersTo : Spot → String → Occurrence → Prop where
  | intro {enclosures : List Enclosure} {position : Position} {members : Members}
      {reference name : String} {occurrence : Occurrence} :
      members.get? "$ref" = some (.str reference) → Reference.Names reference name →
      Enclosure.Finds enclosures name occurrence →
      RefersTo ⟨enclosures, position, .obj members⟩ reference occurrence

inductive Declares : Spot → Occurrence → Prop where
  | intro {outer : List Enclosure} {position : Position} {members : Members}
      {entries : List Definitions.Entry} {entry : Definitions.Entry} :
      members.get? "$ref" = none → Definitions.entries members = .ok entries →
      Definitions.Counts entries entry →
      Declares ⟨outer, position, .obj members⟩ ⟨outer, ⟨position, entries⟩, entry⟩

def Needs (spot : Spot) (occurrence : Occurrence) : Prop :=
  (∃ reference, spot.RefersTo reference occurrence) ∨ spot.Declares occurrence

/-- The spots of a schema that its compilation leads to: the root, parts of nodes, and bodies of
definitions that are needed. -/
inductive Reached (schema : Json) : Spot → Prop where
  | root : Reached schema ⟨[], ⟨none, []⟩, schema⟩
  | step {spot spot' : Spot} : Reached schema spot → spot.Steps spot' → Reached schema spot'
  | body {spot : Spot} {occurrence : Occurrence} :
      Reached schema spot → spot.Needs occurrence → Reached schema occurrence.body

end Spot

/-- Compiling the body of a definition visits a node that needs another one. -/
def Occurrence.DependsOn (occurrence other : Occurrence) : Prop :=
  ∃ spot, occurrence.body.Visits spot ∧ spot.Needs other

/-! ## Names -/

namespace Definitions

variable {entries : List Entry} {entry : Entry} {name : String}

theorem counts_of_lookup
    (found : (Keyed.ofPairs (entries.map fun entry => (entry.name, entry))).lookup name =
      some entry) : Counts entries entry ∧ entry.name = name := by
  obtain ⟨other, member, same⟩ := List.mem_map.mp (Keyed.mem_ofPairs (Keyed.mem_of_lookup found))
  obtain ⟨last, counts, rfl⟩ := exists_counts ⟨other, member, congrArg Prod.fst same⟩
  cases (counts.lookup id).symm.trans found
  exact ⟨counts, rfl⟩

end Definitions

namespace Enclosure

variable {enclosures : List Enclosure} {name : String} {occurrence : Occurrence}

theorem Finds.counts (finds : Finds enclosures name occurrence) :
    Definitions.Counts occurrence.enclosure.entries occurrence.entry ∧ occurrence.entry.name = name := by
  induction finds with
  | here counts => exact ⟨counts, rfl⟩
  | further _ _ ih => exact ih

theorem Finds.innermost {enclosure : Enclosure} {outer : List Enclosure}
    (finds : Finds (enclosure :: outer) name occurrence) (names : enclosure.Names name) :
    ∃ entry, Definitions.Counts enclosure.entries entry ∧ occurrence = ⟨outer, enclosure, entry⟩ := by
  cases finds with
  | here counts => exact ⟨_, counts, rfl⟩
  | further absent => exact (absent names).elim

theorem Finds.blocks (finds : Finds enclosures name occurrence) (registry : Registry) :
    (blocks registry enclosures).find? name = some (.body
      (site registry occurrence.body.enclosures occurrence.body.position) occurrence.body.node) := by
  induction finds with
  | @here enclosure outer entry counts =>
    unfold Enclosure.blocks Blocks.find?
    rw [show (Definitions.effective enclosure.entries).lookup entry.name = _ from
      counts.lookup Definitions.Entry.node]
    rfl
  | @further enclosure outer name occurrence other finds ih =>
    have absent : (Definitions.effective enclosure.entries).lookup name = none := by
      cases found : (Definitions.effective enclosure.entries).lookup name with
      | none => rfl
      | some node =>
        obtain ⟨entry, counts, same, -⟩ := Definitions.counts_of_effective found
        exact (other ⟨entry, counts.mem, same⟩).elim
    unfold Enclosure.blocks Blocks.find?
    rw [absent]
    exact ih

end Enclosure

/-! ## Heights -/

/-- The node at a spot has a type, by a derivation up to some height. -/
def Spot.Has (loader : Loader) (registry : Registry) (height : Nat) (spot : Spot) : Prop :=
  ∃ ty, DenotesIn loader height (Enclosure.site registry spot.enclosures spot.position) spot.node ty

variable {loader : Loader} {registry : Registry} {height : Nat} {spot spot' : Spot}
  {occurrence other : Occurrence}

namespace Spot.Has

theorem mono {taller : Nat} (has : spot.Has loader registry height) (within : height ≤ taller) :
    spot.Has loader registry taller :=
  has.imp fun _ derived => derived.mono within

theorem declaring {outer : List Enclosure} {position : Position} {members : Members}
    (has : Spot.Has loader registry (height + 1) ⟨outer, position, .obj members⟩)
    (plain : members.get? "$ref" = none) {entries : List Definitions.Entry}
    (read : Definitions.entries members = .ok entries) :
    let inside := DenotesIn loader height
      (Enclosure.site registry (Enclosure.around position entries outer) position)
    (∀ body ∈ Definitions.effective entries, ∃ ty, inside body.2 ty) ∧
      ∃ ty, Node.Composed inside members ty := by
  obtain ⟨ty, derived⟩ := has
  have outlined : Outlined (DenotesIn loader height)
      ((Enclosure.site registry outer position).object loader members) ty := derived
  simp only [Site.object, plain] at outlined
  obtain ⟨entries', read', bodies, inner⟩ := Outlined.declaring_iff.mp outlined
  rw [read] at read'
  cases read'
  rw [Enclosure.site_inside] at bodies inner
  exact ⟨bodies, ty, Node.composed_of_yields (Outlined.plan_iff.mp (Outlined.some_iff.mp inner))⟩

theorem step (has : spot.Has loader registry (height + 1)) (steps : spot.Steps spot') :
    spot'.Has loader registry height := by
  obtain ⟨plain, read, visited⟩ := steps
  obtain ⟨-, ty, composed⟩ := has.declaring plain read
  exact composed.visited visited

theorem visits (has : spot.Has loader registry height) (visits : spot.Visits spot') :
    spot'.Has loader registry height := by
  induction visits with
  | refl => exact has
  | tail _ steps ih =>
    cases height with
    | zero => exact ih.elim fun _ derived => derived.elim
    | succ height => exact (ih.step steps).mono (Nat.le_succ height)

theorem needs (has : spot.Has loader registry (height + 1)) (needs : spot.Needs occurrence) :
    occurrence.body.Has loader registry height := by
  rcases needs with ⟨reference, refers⟩ | declares
  · cases refers with
    | @intro enclosures position members _ name _ named names finds =>
      obtain ⟨ty, derived⟩ := has
      have outlined : Outlined (DenotesIn loader height)
          ((Enclosure.site registry enclosures position).object loader members) ty := derived
      obtain ⟨fragment, inside, definition⟩ := Reference.names_iff.mp names
      simp only [Site.object, named, Site.follow, inside, definition, Option.bind_some] at outlined
      rw [Outlined.meaning_iff, show (Enclosure.site registry enclosures position).blocks.find? name =
        _ from finds.blocks registry] at outlined
      obtain ⟨⟨⟩⟩ | ⟨_, _, ⟨⟩, derived⟩ := outlined
      exact ⟨ty, derived⟩
  · cases declares with
    | @intro outer position members entries entry plain read counts =>
      obtain ⟨bodies, -⟩ := has.declaring plain read
      have some : entries ≠ [] := List.ne_nil_of_mem counts.mem
      rw [Enclosure.around, if_neg (by simpa using some)] at bodies
      exact bodies _ (Keyed.mem_of_lookup (counts.lookup Definitions.Entry.node))

theorem depends (has : occurrence.body.Has loader registry height)
    (depends : occurrence.DependsOn other) :
    ∃ lower < height, other.body.Has loader registry lower := by
  obtain ⟨spot, visits, needs⟩ := depends
  have there := has.visits visits
  cases height with
  | zero => exact there.elim fun _ derived => derived.elim
  | succ height => exact ⟨height, Nat.lt_succ_self height, there.needs needs⟩

theorem depends_trans (has : occurrence.body.Has loader registry height)
    (depends : Relation.TransGen Occurrence.DependsOn occurrence other) :
    ∃ lower < height, other.body.Has loader registry lower := by
  induction depends with
  | single depends => exact has.depends depends
  | tail _ depends ih =>
    obtain ⟨middle, less, has⟩ := ih
    obtain ⟨lower, less', has⟩ := has.depends depends
    exact ⟨lower, Nat.lt_trans less' less, has⟩

/-- A body with a type does not depend on itself. -/
theorem acyclic (has : occurrence.body.Has loader registry height) :
    ¬Relation.TransGen Occurrence.DependsOn occurrence occurrence := by
  intro cycle
  induction height using Nat.strongRecOn with
  | ind height ih =>
    obtain ⟨lower, less, has⟩ := has.depends_trans cycle
    exact ih lower less has

end Spot.Has

/-- When a schema has a type, so have all nodes and bodies that it leads to. -/
theorem Spot.Reached.has {schema : Json} (reached : Reached schema spot) {ty : Ty}
    (denoted : Denotes loader ⟨none, .known registry⟩ schema ty) :
    ∃ height, spot.Has loader registry height := by
  have lower {height : Nat} {first second : Spot} (has : first.Has loader registry height)
      (next : ∀ height, first.Has loader registry (height + 1) → second.Has loader registry height) :
      ∃ height, second.Has loader registry height :=
    ⟨height, next height (has.mono (Nat.le_succ height))⟩
  induction reached with
  | root => exact denoted.imp fun _ derived => ⟨ty, derived⟩
  | step _ steps ih =>
    obtain ⟨height, has⟩ := ih
    exact lower has fun _ has => has.step steps
  | body _ needs ih =>
    obtain ⟨height, has⟩ := ih
    exact lower has fun _ has => has.needs needs

end SchemaTypes
