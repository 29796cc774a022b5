import SchemaTypes.Proofs.Restoration
import SchemaTypes.Proofs.Site

/-! How a scope with its slots stands for the blocks of a site. A slot with a type holds what its body
denotes, a pending slot holds its body and the document of it, and a slot that is being compiled
stands for a body without low derivations. -/
namespace SchemaTypes

/-- What a slot tells of the body that is declared in it. -/
def Slot.Stands (loader : Loader) (height : Nat) (declared : Site) (node : Json) : Slot → Prop
  | .ready ty => Denotes loader declared node ty
  | .pending definition =>
    definition.node = node ∧ definition.position.document = declared.document
  | .compiling => ∀ ty, ¬DenotesIn loader height declared node ty

/-- A scope stands for blocks, as far as derivations up to a height can tell. -/
inductive Blocks.Matches (loader : Loader) (height : Nat) : Blocks → Scope → Prop where
  | known {registry : Registry} {number : Nat} :
      Matches loader height (.known registry)
        [⟨number, registry.entries.map fun (name, ty) => (name, .ready ty)⟩]
  | block {document : Option Location} {definitions : Members} {outer : Blocks} {layer : Layer}
      {rest : Scope} :
      Keyed.Aligned (fun node slot =>
        Slot.Stands loader height ⟨document, .block document definitions outer⟩ node slot)
          definitions layer.slots →
      Matches loader height outer rest →
      Matches loader height (.block document definitions outer) (layer :: rest)

/-- A location with this key was asked for, and there was a document. -/
def Loader.Opened (loader : Loader) (journal : List Event) (key : Location.Key) : Prop :=
  ∃ location document, location ∈ journal.filterMap Event.opened? ∧
    loader.load location = .ok document ∧ location.key = key

/-- A compilation stands at a site. -/
structure Site.Admits (loader : Loader) (height : Nat) (site : Site) (state : State) : Prop where
  document : state.position.document = site.document
  blocks : site.blocks.Matches loader height state.scope
  opened : ∀ key ∈ state.opened, loader.Opened state.journal key

variable {loader : Loader} {height lower : Nat} {site declared : Site} {blocks : Blocks}
  {node : Json} {name : String} {slot : Slot} {scope hidden outer : Scope} {layer : Layer}
  {events : List Event} {key : Location.Key}

theorem Loader.Opened.later (opened : loader.Opened events key) (added : List Event) :
    loader.Opened (added ++ events) key := by
  obtain ⟨location, document, asked, found⟩ := opened
  refine ⟨location, document, ?_, found⟩
  rw [List.filterMap_append]
  exact List.mem_append_right _ asked

theorem Slot.Stands.mono (stands : slot.Stands loader height declared node)
    (within : lower ≤ height) : slot.Stands loader lower declared node := by
  cases slot with
  | ready | pending => exact stands
  | compiling => exact fun ty derived => stands ty (derived.mono within)

/-- A slot that goes on being compiled still stands for a body without low derivations. -/
theorem Slot.Stands.lift {before after : Slot} (first : before.Stands loader height declared node)
    (second : after.Stands loader lower declared node)
    (settled : Slot.Settles false events before after) :
    after.Stands loader height declared node := by
  cases settled with
  | same => exact first
  | filled => exact second
  | broken fails => contradiction

namespace Blocks.Matches

theorem mono (matched : blocks.Matches loader height scope) (within : lower ≤ height) :
    blocks.Matches loader lower scope := by
  induction matched with
  | known => exact .known
  | block aligned _ ih =>
    exact .block (aligned.imp fun _ _ related => ⟨related.1, related.2.mono within⟩) ih

theorem lift {before after : Scope} (first : blocks.Matches loader height before)
    (second : blocks.Matches loader lower after)
    (settled : Scope.Settles false events before after) : blocks.Matches loader height after := by
  induction first generalizing after with
  | known =>
    cases second
    exact .known
  | block aligned _ ih =>
    cases second with
    | block aligned' rest =>
      cases settled with
      | cons head tail =>
        refine .block (aligned.join aligned' head.slots ?_) (ih rest tail)
        exact fun _ _ _ first second settled => first.lift second settled

/-- A name that is found nowhere in scope means nothing. -/
theorem find?_none (matched : blocks.Matches loader height scope)
    (absent : scope.find? name = none) : blocks.find? name = none := by
  induction matched with
  | @known registry number =>
    have unknown : registry.entries.lookup name = none := by
      cases found : registry.entries.lookup name with
      | none => rfl
      | some ty =>
        simp [Scope.find?, Layer.find?, Keyed.lookup_map, found] at absent
    simp [find?, Registry.get?, unknown]
  | @block document definitions outer layer rest aligned _ ih =>
    unfold Scope.find? at absent
    split at absent
    · cases absent
    · next missing =>
      have undefined : definitions.lookup name = none := aligned.flip.lookup_none missing
      simp only [find?, undefined]
      exact ih absent

/-- A name that a layer has, where the blocks have a body for it: the slot stands for the body, and any
slot that stands for it may take its place. -/
structure Declares (loader : Loader) (height : Nat) (blocks : Blocks) (name : String) (slot : Slot)
    (hidden : Scope) (layer : Layer) (outer : Scope) where
  declared : Site
  node : Json
  means : blocks.find? name = some (.body declared node)
  stands : slot.Stands loader height declared node
  visible : declared.blocks.Matches loader height (layer :: outer)
  replace : ∀ lower inner rest slot, declared.blocks.Matches loader lower (inner :: rest) →
    slot.Stands loader lower declared node →
      declared.blocks.Matches loader lower (inner.set name slot :: rest)
  back : ∀ lower ≤ height, ∀ scope, declared.blocks.Matches loader lower scope →
    blocks.Matches loader lower (hidden ++ scope)

theorem Declares.meaning_iff {judged : Judgement} {ty : Ty}
    (declares : Declares loader height site.blocks name slot hidden layer outer) :
    Outlined judged (site.meaning name) ty ↔ judged declares.declared declares.node ty := by
  rw [Outlined.meaning_iff, declares.means]
  constructor
  · rintro (⟨⟨⟩⟩ | ⟨_, _, ⟨⟩, derived⟩)
    exact derived
  · exact fun derived => .inr ⟨_, _, rfl, derived⟩

/-- What a name in scope means: a type that is known beforehand, or the body that its slot stands
for. -/
theorem found (matched : blocks.Matches loader height (hidden ++ layer :: outer))
    (shadowless : ∀ inner ∈ hidden, inner.slots.lookup name = none)
    (here : layer.slots.lookup name = some slot) :
    (∃ ty, slot = .ready ty ∧ blocks.find? name = some (.type ty)) ∨
      Nonempty (Declares loader height blocks name slot hidden layer outer) := by
  -- A name that the innermost layer does not have means what it means outside of it.
  induction hidden generalizing blocks with
  | nil =>
    cases matched with
    | @known registry number =>
      rw [Keyed.lookup_map] at here
      obtain ⟨ty, known, rfl⟩ := Option.map_eq_some_iff.mp here
      exact .inl ⟨ty, rfl, by simp [find?, Registry.get?, known]⟩
    | @block document definitions outer' _ _ aligned rest =>
      obtain ⟨node, defined, stands⟩ := aligned.flip.lookup here
      refine .inr ⟨⟨⟨document, _⟩, node, by simp only [find?, defined], stands,
        .block aligned rest, ?_, fun _ _ _ => id⟩⟩
      intro lower inner rest slot matched stands
      cases matched with
      | block aligned rest => exact .block (aligned.insert_right defined stands) rest
  | cons inner hidden ih =>
    obtain ⟨absent, shadowless⟩ := List.forall_mem_cons.mp shadowless
    rw [List.cons_append] at matched
    generalize visible : hidden ++ layer :: outer = outside at matched
    cases matched with
    | known => simp at visible
    | @block document definitions outer' _ _ aligned rest =>
      subst visible
      have undefined : definitions.lookup name = none := aligned.flip.lookup_none absent
      simp only [find?, undefined]
      rcases ih rest shadowless with known | found
      · exact .inl known
      · obtain ⟨found⟩ := found
        refine .inr ⟨{ found with
          means := by simp only [find?, undefined, found.means]
          back := fun lower within scope matched => ?_ }⟩
        refine .block (aligned.imp fun _ _ related => ?_) (found.back lower within scope matched)
        exact ⟨related.1, related.2.mono within⟩

end Blocks.Matches

namespace Site.Admits

theorem at_start (loader : Loader) (height : Nat) (registry : Registry) :
    Site.Admits loader height ⟨none, .known registry⟩ (State.start registry) :=
  ⟨rfl, .known, by simp [State.start]⟩

/-- Notes change nothing about where a compilation stands. -/
theorem noting {state : State} (admitted : site.Admits loader height state) (added : List Event) :
    site.Admits loader height { state with journal := added ++ state.journal } :=
  ⟨admitted.document, admitted.blocks, fun key listed => (admitted.opened key listed).later added⟩

/-- With a block of definitions in scope, the site is that inside of the block's node. -/
theorem entering {entries : List Definitions.Entry} {state : State}
    (admitted : site.Admits loader height state) (full : entries.isEmpty = false) :
    (site.inside entries).Admits loader height
      (state.entering (Definitions.slots state.position entries)) := by
  simp only [Site.inside, full, Bool.false_eq_true, if_false]
  exact ⟨admitted.document,
    .block (Keyed.Aligned.ofPairs fun entry _ => ⟨rfl, admitted.document⟩) admitted.blocks,
    admitted.opened⟩

/-- Out of a block again, the site is that around the block's node. -/
theorem leaving {entries : List Definitions.Entry} {state : State}
    (admitted : (site.inside entries).Admits loader height state)
    (full : entries.isEmpty = false) :
    site.Admits loader height { state with scope := state.scope.drop 1 } := by
  simp only [Site.inside, full, Bool.false_eq_true, if_false] at admitted
  obtain ⟨document, matched, opened⟩ := admitted
  refine ⟨document, ?_, opened⟩
  generalize state.scope = scope at matched
  cases matched with
  | block _ outer => exact outer

end Site.Admits

end SchemaTypes
