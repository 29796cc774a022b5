import SchemaTypes.Proofs.Fragments
import SchemaTypes.Proofs.Invariance
import SchemaTypes.Proofs.Verdict
import SchemaTypes.Proofs.Whereabouts

/-! The definitions that lie around a node. What a compilation comes to it finds inside of nodes that
declare definitions: each is remembered with its position and with the entries of both its blocks.
Of two entries of one name only the later counts. -/
namespace SchemaTypes

namespace Definitions

/-- An entry that no later one of the same name takes the place of. -/
def Counts (entries : List Entry) (entry : Entry) : Prop :=
  ∃ earlier later, entries = earlier ++ entry :: later ∧ ∀ other ∈ later, other.name ≠ entry.name

end Definitions

/-- A node that declares definitions, or the root of a document that does: where it stands, and its
entries. -/
structure Enclosure where
  position : Position
  entries : List Definitions.Entry

namespace Enclosure

/-- There is an entry of a name in one of the blocks. -/
def Names (enclosure : Enclosure) (name : String) : Prop :=
  ∃ entry ∈ enclosure.entries, entry.name = name

/-- A node with these entries around what is inside of it. Without entries it is no enclosure. -/
def around (position : Position) (entries : List Definitions.Entry) (outer : List Enclosure) :
    List Enclosure :=
  if entries.isEmpty then outer else ⟨position, entries⟩ :: outer

/-- What names mean inside of enclosures, given innermost first. -/
def blocks (registry : Registry) : List Enclosure → Blocks
  | [] => .known registry
  | enclosure :: outer =>
    .block enclosure.position.document (Definitions.effective enclosure.entries)
      (blocks registry outer)

/-- Where a node at a position is judged when enclosures lie around it. -/
def site (registry : Registry) (enclosures : List Enclosure) (position : Position) : Site :=
  ⟨position.document, blocks registry enclosures⟩

end Enclosure

/-- A node refers to a fragment of another document, and the loader has that document. -/
structure Reference.Asks (loader : Loader) (position : Position) (members : Members)
    (location : Location) (fragment : String) (root : Json) : Prop where
  reference : ∃ reference, members.get? "$ref" = some (.str reference) ∧
    localFragment? reference = none ∧ (split reference).2 = fragment ∧
    Location.resolve (split reference).1 position.document = location
  loaded : loader.load location = .ok root

mutual

/-- A node that compiling a source may come to, with the enclosures around it and its position. -/
inductive Source.Reaches (loader : Loader) (source : Source) :
    List Enclosure → Position → Json → Prop where
  | inline {schema : Json} : source = .inline schema → Reaches loader source [] ⟨none, []⟩ schema
  | location {location : Location} {root : Json} : source = .location location →
      loader.load location = .ok root → Reaches loader source [] ⟨some location, []⟩ root
  | part {outer : List Enclosure} {position : Position} {members : Members}
      {entries : List Definitions.Entry} {path : List String} {node : Json} :
      Reaches loader source outer position (.obj members) → members.get? "$ref" = none →
      Definitions.entries members = .ok entries → Node.Part members path node →
      Reaches loader source (Enclosure.around position entries outer) (position.below path) node
  | entry {outer : List Enclosure} {position : Position} {entries : List Definitions.Entry}
      {entry : Definitions.Entry} :
      Harvests loader source outer position entries → Definitions.Counts entries entry →
      Reaches loader source (⟨position, entries⟩ :: outer)
        (position.below [entry.keyword, entry.name]) entry.node
  | document {outer : List Enclosure} {position : Position} {members : Members}
      {location : Location} {root : Json} :
      Reaches loader source outer position (.obj members) →
      Reference.Asks loader position members location "" root →
      Reaches loader source outer ⟨some location, []⟩ root
  | excerpt {outer : List Enclosure} {position : Position} {members root : Members}
      {location : Location} {fragment : String} {entries : List Definitions.Entry} {node : Json} :
      Reaches loader source outer position (.obj members) →
      Reference.Asks loader position members location fragment (.obj root) → fragment ≠ "" →
      Reference.definitionName? fragment = none → Definitions.entries root = .ok entries →
      (Json.obj root).pointer? fragment = some node →
      Reaches loader source (Enclosure.around ⟨some location, []⟩ entries outer)
        ⟨some location, Pointer.segments fragment⟩ node

/-- A place where compiling a source may bring entries into scope, and the enclosures around it: a
node that is no reference, or the root of a document when a reference names a part of it. -/
inductive Source.Harvests (loader : Loader) (source : Source) :
    List Enclosure → Position → List Definitions.Entry → Prop where
  | node {outer : List Enclosure} {position : Position} {members : Members}
      {entries : List Definitions.Entry} :
      Reaches loader source outer position (.obj members) → members.get? "$ref" = none →
      Definitions.entries members = .ok entries → Harvests loader source outer position entries
  | root {outer : List Enclosure} {position : Position} {members root : Members}
      {location : Location} {fragment : String} {entries : List Definitions.Entry} :
      Reaches loader source outer position (.obj members) →
      Reference.Asks loader position members location fragment (.obj root) → fragment ≠ "" →
      Definitions.entries root = .ok entries →
      Harvests loader source outer ⟨some location, []⟩ entries

end

/-! ## Entries that count -/

namespace Definitions

variable {position : Position} {entries : List Entry} {entry : Entry} {name : String}
  {definition : Definition}

theorem Counts.mem (counts : Counts entries entry) : entry ∈ entries := by
  obtain ⟨earlier, later, rfl, -⟩ := counts
  simp

/-- Whatever is made of the entries, by name it is that of the entry that counts. -/
theorem Counts.lookup {α : Type} (counts : Counts entries entry) (value : Entry → α) :
    (Keyed.ofPairs (entries.map fun entry => (entry.name, value entry))).lookup entry.name =
      some (value entry) := by
  obtain ⟨earlier, later, rfl, others⟩ := counts
  have absent : (Keyed.ofPairs (later.map fun entry => (entry.name, value entry))).lookup
      entry.name = none := by
    refine List.lookup_eq_none_iff.mpr fun pair member => ?_
    obtain ⟨other, here, rfl⟩ := List.mem_map.mp (Keyed.mem_ofPairs member)
    simpa using (others other here).symm
  rw [← List.singleton_append, List.map_append, List.map_append, Keyed.lookup_ofPairs_append,
    Keyed.lookup_ofPairs_append, absent]
  simp [Keyed.ofPairs, Keyed.insertAll, Keyed.insert]

theorem exists_counts (named : ∃ entry ∈ entries, entry.name = name) :
    ∃ entry, Counts entries entry ∧ entry.name = name := by
  induction entries with
  | nil => simp at named
  | cons first rest ih =>
    by_cases again : ∃ entry ∈ rest, entry.name = name
    · obtain ⟨entry, ⟨earlier, later, rfl, others⟩, same⟩ := ih again
      exact ⟨entry, ⟨first :: earlier, later, rfl, others⟩, same⟩
    · obtain ⟨entry, member, rfl⟩ := named
      rcases List.mem_cons.mp member with rfl | member
      · exact ⟨entry, ⟨[], rest, rfl, fun other here same => again ⟨other, here, same⟩⟩, rfl⟩
      · exact (again ⟨entry, member, rfl⟩).elim

/-- A body that waits in a fresh block is that of an entry that counts. -/
theorem counts_of_pending (found : (slots position entries).lookup name = some (.pending definition)) :
    ∃ entry, Counts entries entry ∧ entry.name = name ∧
      definition = ⟨entry.node, position.below [entry.keyword, entry.name]⟩ := by
  obtain ⟨entry, member, named, -⟩ := slots_lookup found
  obtain ⟨entry, counts, rfl⟩ := exists_counts ⟨entry, member, named⟩
  have same := (counts.lookup (declare position)).symm.trans found
  exact ⟨entry, counts, rfl, (Slot.pending.inj (Option.some.inj same)).symm⟩

theorem counts_of_effective {node : Json} (found : (effective entries).lookup name = some node) :
    ∃ entry, Counts entries entry ∧ entry.name = name ∧ entry.node = node := by
  obtain ⟨entry, member, same⟩ := List.mem_map.mp (Keyed.mem_ofPairs (Keyed.mem_of_lookup found))
  obtain ⟨entry, counts, rfl⟩ := exists_counts ⟨entry, member, congrArg Prod.fst same⟩
  have same := (counts.lookup Entry.node).symm.trans found
  exact ⟨entry, counts, rfl, Option.some.inj same⟩

end Definitions

/-! ## What names mean inside of enclosures -/

namespace Enclosure

variable {registry : Registry} {enclosure : Enclosure} {inner outer : List Enclosure}
  {position : Position} {entries : List Definitions.Entry} {name : String}

theorem site_inside : (site registry outer position).inside entries =
    site registry (around position entries outer) position := by
  unfold Site.inside around
  split <;> rfl

/-- A name means the entry that counts in the innermost enclosure that has one of the name. -/
theorem find?_blocks {enclosures : List Enclosure}
    (named : ∃ enclosure ∈ enclosures, enclosure.Names name) :
    ∃ inner closest outer entry, enclosures = inner ++ closest :: outer ∧
      (∀ enclosure ∈ inner, ¬enclosure.Names name) ∧
      Definitions.Counts closest.entries entry ∧ entry.name = name ∧
      (blocks registry enclosures).find? name =
        some (.body (site registry (closest :: outer) closest.position) entry.node) := by
  induction enclosures with
  | nil => simp at named
  | cons first enclosures ih =>
    unfold blocks Blocks.find?
    by_cases here : first.Names name
    · obtain ⟨entry, counts, rfl⟩ := Definitions.exists_counts here
      refine ⟨[], first, enclosures, entry, rfl, by simp, counts, rfl, ?_⟩
      rw [show (Definitions.effective first.entries).lookup entry.name = _ from
        counts.lookup Definitions.Entry.node]
      rfl
    · obtain ⟨enclosure, member, names⟩ := named
      have further : ∃ enclosure ∈ enclosures, enclosure.Names name := by
        rcases List.mem_cons.mp member with rfl | member
        · exact (here names).elim
        · exact ⟨enclosure, member, names⟩
      obtain ⟨inner, closest, outer, entry, rfl, others, counts, same, means⟩ := ih further
      refine ⟨first :: inner, closest, outer, entry, rfl, List.forall_mem_cons.mpr ⟨here, others⟩,
        counts, same, ?_⟩
      have absent : (Definitions.effective first.entries).lookup name = none := by
        cases found : (Definitions.effective first.entries).lookup name with
        | none => rfl
        | some node =>
          obtain ⟨entry, counts, same, -⟩ := Definitions.counts_of_effective found
          exact (here ⟨entry, counts.mem, same⟩).elim
      rw [absent]
      exact means

end Enclosure

/-! ## Enclosures and layers -/

section

variable (loader : Loader) (source : Source)

/-- The layers of a scope are those of enclosures, with the types that are known beforehand outside of
them. A body that waits in a layer is that of an entry that counts. -/
inductive Scope.Shows : List Enclosure → Scope → Prop where
  | known {scope : Scope} : scope.Settled → Shows [] scope
  | block {outer : List Enclosure} {position : Position} {entries : List Definitions.Entry}
      {layer : Layer} {rest : Scope} :
      source.Harvests loader outer position entries →
      (∀ name definition, layer.slots.lookup name = some (.pending definition) →
        ∃ entry, Definitions.Counts entries entry ∧ entry.name = name ∧
          definition = ⟨entry.node, position.below [entry.keyword, entry.name]⟩) →
      Shows outer rest → Shows (⟨position, entries⟩ :: outer) (layer :: rest)

/-- A compilation of a source stands inside of enclosures. -/
structure State.Inside (registry : Registry) (enclosures : List Enclosure) (state : State) :
    Prop where
  shows : state.scope.Shows loader source enclosures
  admitted : (Enclosure.site registry enclosures state.position).Admits loader 0 state

end

variable {loader : Loader} {source : Source} {registry : Registry} {enclosures outer : List Enclosure}
  {position : Position} {entries : List Definitions.Entry} {state : State}

namespace Scope.Shows

theorem settles {failed : Bool} {events : List Event} {scope scope' : Scope}
    (shows : scope.Shows loader source enclosures)
    (settled : Scope.Settles failed events scope scope') :
    scope'.Shows loader source enclosures := by
  induction shows generalizing scope' with
  | known ready => exact .known (settled.eq_of_settled ready ▸ ready)
  | block harvests waiting _ ih =>
    cases settled with
    | cons head tail =>
      refine .block harvests (fun name definition found => ?_) (ih tail)
      obtain ⟨slot, before, moved⟩ := head.slots.flip.lookup found
      cases moved
      exact waiting name definition before

theorem set {layer : Layer} {rest : Scope} {name : String} {slot : Slot}
    (shows : Scope.Shows loader source (enclosure :: outer) (layer :: rest))
    (done : ∀ definition, slot ≠ .pending definition) :
    Scope.Shows loader source (enclosure :: outer) (layer.set name slot :: rest) := by
  cases shows with
  | block harvests waiting below =>
    refine .block harvests (fun other definition found => ?_) below
    by_cases same : other = name
    · subst same
      rw [show (layer.set other slot).slots.lookup other = some slot from
        Keyed.lookup_insert_self _ _ _] at found
      exact (done definition (Option.some.inj found)).elim
    · rw [show (layer.set name slot).slots.lookup other = _ from
        Keyed.lookup_insert_of_ne same _ _] at found
      exact waiting other definition found

/-- A body that waits is that of an entry of one of the enclosures, and the layers outside of its own
are those of the enclosures outside of that one. -/
theorem pending {hidden rest : Scope} {layer : Layer} {name : String} {definition : Definition}
    (shows : Scope.Shows loader source enclosures (hidden ++ layer :: rest))
    (found : layer.slots.lookup name = some (.pending definition)) :
    ∃ enclosure outer entry, source.Harvests loader outer enclosure.position enclosure.entries ∧
      Definitions.Counts enclosure.entries entry ∧
      definition = ⟨entry.node, enclosure.position.below [entry.keyword, entry.name]⟩ ∧
      Scope.Shows loader source (enclosure :: outer) (layer :: rest) ∧
      ∀ registry, (Enclosure.blocks registry enclosures).Matches loader 0 (hidden ++ layer :: rest) →
        (Enclosure.blocks registry (enclosure :: outer)).Matches loader 0 (layer :: rest) := by
  induction hidden generalizing enclosures with
  | nil =>
    cases shows with
    | known ready =>
      obtain ⟨ty, known⟩ := ready layer List.mem_cons_self _ (Keyed.mem_of_lookup found)
      cases known
    | @block outer position entries _ _ harvests waiting below =>
      obtain ⟨entry, counts, -, same⟩ := waiting name definition found
      exact ⟨⟨position, entries⟩, outer, entry, harvests, counts, same,
        .block harvests waiting below, fun _ matched => matched⟩
  | cons inner hidden ih =>
    cases shows with
    | known ready =>
      have inside : layer ∈ inner :: (hidden ++ layer :: rest) := by simp
      obtain ⟨ty, known⟩ := ready layer inside _ (Keyed.mem_of_lookup found)
      cases known
    | block harvests waiting below =>
      obtain ⟨enclosure, outer, entry, harvests, counts, same, shows, matches'⟩ := ih below
      refine ⟨enclosure, outer, entry, harvests, counts, same, shows, fun registry matched => ?_⟩
      cases matched with
      | block _ matched => exact matches' registry matched

end Scope.Shows

namespace State.Inside

theorem start (registry : Registry) :
    State.Inside loader source registry [] (.start registry) :=
  ⟨.known (Scope.settled_ofRegistry registry), .at_start loader 0 registry⟩

theorem noting (inside : State.Inside loader source registry enclosures state)
    (added : List Event) :
    State.Inside loader source registry enclosures
      { state with journal := added ++ state.journal } :=
  ⟨inside.shows, inside.admitted.noting added⟩

theorem at_path (inside : State.Inside loader source registry enclosures state)
    (path : List String) :
    State.Inside loader source registry enclosures
      { state with position := { state.position with path } } :=
  ⟨inside.shows, inside.admitted.document, inside.admitted.blocks, inside.admitted.opened⟩

/-- A computation that ends well leaves its enclosures around. -/
theorem after {α : Type} {body : Compile α} {right possible : α → Prop} {a : α} {after : State}
    (inside : State.Inside loader source registry enclosures state) (restores : body.Restores)
    (tells : body.Tells loader (Enclosure.site registry enclosures state.position) 0 right possible)
    (ran : body state = (.ok a, after)) :
    State.Inside loader source registry enclosures after ∧ after.position = state.position ∧
      right a := by
  obtain ⟨events, kept⟩ := restores state
  rw [ran] at kept
  obtain ⟨fits, admitted⟩ := (tells state inside.admitted).gives a after ran
  refine ⟨⟨inside.shows.settles kept.scope, ?_⟩, kept.position, fits⟩
  rw [kept.position]
  exact admitted

/-- With its entries in scope, a node is around what is compiled. -/
theorem declaring (inside : State.Inside loader source registry outer state)
    (harvests : source.Harvests loader outer state.position entries) :
    State.Inside loader source registry (Enclosure.around state.position entries outer)
      (state.declaring entries) := by
  cases entries with
  | nil => exact inside
  | cons first rest =>
    have noted := inside.noting [.harvesting (first :: rest).length state.position]
    refine ⟨.block harvests (fun _ _ => Definitions.counts_of_pending) inside.shows, ?_⟩
    rw [State.declaring_position, ← Enclosure.site_inside]
    exact noted.admitted.entering rfl

/-- A body that is asked for is compiled inside of the enclosures of its entry. -/
theorem demanding {hidden rest : Scope} {layer : Layer} {name : String} {definition : Definition}
    (inside : State.Inside loader source registry enclosures state)
    (parts : state.scope = hidden ++ layer :: rest)
    (found : layer.slots.lookup name = some (.pending definition)) :
    ∃ outer, source.Reaches loader outer definition.position definition.node ∧
      State.Inside loader source registry outer
        (Definitions.demanding state name definition layer rest) := by
  obtain ⟨shows, admitted⟩ := inside
  rw [parts] at shows
  obtain ⟨enclosure, outer, entry, harvests, counts, rfl, shows, matches'⟩ := shows.pending found
  have matched := admitted.blocks
  rw [parts] at matched
  refine ⟨enclosure :: outer, .entry harvests counts, shows.set (by simp), rfl, ?_,
    admitted.opened⟩
  cases matches' registry matched with
  | block aligned outside =>
    obtain ⟨node, effective, -⟩ := aligned.flip.lookup found
    exact .block (aligned.insert_right effective fun _ => id) outside

theorem entered {location : Location} {root : Json}
    (inside : State.Inside loader source registry enclosures state)
    (loaded : loader.load location = .ok root) :
    State.Inside loader source registry enclosures (Reference.entered loader location state) :=
  ⟨inside.shows, inside.admitted.opening loaded⟩

end State.Inside

end SchemaTypes
