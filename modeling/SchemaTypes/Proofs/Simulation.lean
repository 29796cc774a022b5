import SchemaTypes.Proofs.Lexical
import SchemaTypes.Proofs.Parts
import SchemaTypes.Proofs.Restoration

/-! How a scope with its slots stands for an environment. A slot with a type holds what its body
means, a pending slot holds its body, and a slot that is being compiled stands for a body that has
no low derivation, so that a cycle never cuts a derivation off. -/
namespace SchemaTypes

/-- All references at the schema positions of a node begin with a hash. -/
inductive Json.Local : Json → Prop where
  | object {members : Members} :
      (∀ reference, members.get? "$ref" = some (.str reference) →
        reference.toList.head? = some '#') →
      (∀ path node, Node.Part members path node → Local node) →
      (∀ keyword ∈ Definitions.keywords, ∀ definitions,
        members.get? keyword = some (.obj definitions) →
        ∀ definition ∈ definitions, Local definition.2) →
      Local (.obj members)
  | other {node : Json} : node.object? = none → Local node

namespace Json.Local

variable {members : Members} {path : List String} {node : Json}

theorem reference (isLocal : (Json.obj members).Local) {reference : String}
    (named : members.get? "$ref" = some (.str reference)) :
    ∃ fragment, Reference.localFragment? reference = some fragment := by
  cases isLocal with
  | object hash _ _ =>
    have first := hash reference named
    unfold Reference.localFragment?
    cases text : reference.toList with
    | nil => simp [text] at first
    | cons c rest =>
      rw [text] at first
      cases first
      exact ⟨_, rfl⟩
  | other none => cases none

theorem part (isLocal : (Json.obj members).Local) (part : Node.Part members path node) :
    node.Local := by
  cases isLocal with
  | object _ parts _ => exact parts path node part
  | other none => cases none

theorem entry (isLocal : (Json.obj members).Local) {entries : List Definitions.Entry}
    (read : Definitions.entries members = .ok entries) : ∀ entry ∈ entries, entry.node.Local := by
  intro entry member
  obtain ⟨keyword, definitions, found, inside⟩ := Definitions.mem_entries read member
  cases isLocal with
  | object _ _ bodies => exact bodies entry.keyword keyword definitions found _ inside
  | other none => cases none

end Json.Local

/-- What a slot tells of the body that is declared in it. -/
def Slot.Fits (height : Nat) (env : Env) (node : Json) : Slot → Prop
  | .ready ty => Derives env node ty
  | .pending definition => definition.node = node ∧ node.Local
  | .compiling => ∀ ty, ¬DerivesIn height env node ty

/-- A scope stands for an environment, as far as derivations up to a height can tell. -/
inductive Env.Matches (height : Nat) : Env → Scope → Prop where
  | known {registry : Registry} {number : Nat} :
      Matches height (.known registry)
        [⟨number, registry.entries.map fun (name, ty) => (name, .ready ty)⟩]
  | block {definitions : Members} {outer : Env} {layer : Layer} {rest : Scope} :
      Keyed.Aligned (fun node slot => Slot.Fits height (.block definitions outer) node slot)
        definitions layer.slots →
      Matches height outer rest → Matches height (.block definitions outer) (layer :: rest)

variable {height lower : Nat} {env declared : Env} {node : Json} {name : String} {slot : Slot}
  {scope hidden outer : Scope} {layer : Layer} {events : List Event}

theorem Slot.Fits.mono (fits : slot.Fits height env node) (within : lower ≤ height) :
    slot.Fits lower env node := by
  cases slot with
  | ready | pending => exact fits
  | compiling => exact fun ty derived => fits ty (derived.mono within)

/-- A slot that goes on being compiled still stands for a body without low derivations. -/
theorem Slot.Fits.lift {before after : Slot} (first : before.Fits height env node)
    (second : after.Fits lower env node) (settled : Slot.Settles false events before after) :
    after.Fits height env node := by
  cases settled with
  | same => exact first
  | filled => exact second
  | broken fails => contradiction

namespace Env.Matches

theorem mono (matched : env.Matches height scope) (within : lower ≤ height) :
    env.Matches lower scope := by
  induction matched with
  | known => exact .known
  | block aligned _ ih =>
    exact .block (aligned.imp fun _ _ related => ⟨related.1, related.2.mono within⟩) ih

theorem lift {before after : Scope} (first : env.Matches height before)
    (second : env.Matches lower after) (settled : Scope.Settles false events before after) :
    env.Matches height after := by
  induction first generalizing after with
  | known =>
    cases second
    exact .known
  | block aligned _ ih =>
    cases second with
    | block aligned' rest =>
      cases settled with
      | cons head tail =>
        refine .block (aligned.join aligned' head.slots ?_) (ih rest tail)
        exact fun _ _ _ first second settled => first.lift second settled

/-- A name that is found nowhere in scope means nothing. -/
theorem find?_none (matched : env.Matches height scope) (absent : scope.find? name = none) :
    env.find? name = none := by
  induction matched with
  | @known registry number =>
    have unknown : registry.entries.lookup name = none := by
      cases found : registry.entries.lookup name with
      | none => rfl
      | some ty =>
        simp [Scope.find?, Layer.find?, Keyed.lookup_map, found] at absent
    simp [find?, Registry.get?, unknown]
  | @block definitions outer layer rest aligned _ ih =>
    unfold Scope.find? at absent
    split at absent
    · cases absent
    · next missing =>
      have undefined : definitions.lookup name = none := aligned.flip.lookup_none missing
      simp only [find?, undefined]
      exact ih absent

/-- Seen from a layer, the layers inside of it that lack a name do not change what it means. -/
theorem split (matched : env.Matches height (hidden ++ layer :: outer))
    (shadowless : ∀ inner ∈ hidden, inner.slots.lookup name = none) :
    ∃ declared : Env, declared.Matches height (layer :: outer) ∧
      env.find? name = declared.find? name ∧
      ∀ lower ≤ height, ∀ scope, declared.Matches lower scope →
        env.Matches lower (hidden ++ scope) := by
  induction hidden generalizing env with
  | nil => exact ⟨env, matched, rfl, fun _ _ _ => id⟩
  | cons inner hidden ih =>
    obtain ⟨absent, shadowless⟩ := List.forall_mem_cons.mp shadowless
    rw [List.cons_append] at matched
    generalize visible : hidden ++ layer :: outer = outside at matched
    cases matched with
    | known => simp at visible
    | @block definitions outer' _ _ aligned rest =>
      subst visible
      obtain ⟨declared, here, same, back⟩ := ih rest shadowless
      have undefined : definitions.lookup name = none := aligned.flip.lookup_none absent
      refine ⟨declared, here, by simp only [find?, undefined, same], ?_⟩
      intro lower within scope matched
      refine .block (aligned.imp fun _ _ related => ?_) (back lower within scope matched)
      exact ⟨related.1, related.2.mono within⟩

/-- What a name of the innermost layer means: a known type, or the body that its slot stands for. In
the second case any slot that fits may take its place. -/
theorem found (matched : env.Matches height (layer :: outer))
    (stands : layer.slots.lookup name = some slot) :
    (∃ ty, slot = .ready ty ∧ env.find? name = some (.type ty)) ∨
      ∃ node, env.find? name = some (.body env node) ∧ slot.Fits height env node ∧
        ∀ lower inner rest slot, env.Matches lower (inner :: rest) → slot.Fits lower env node →
          env.Matches lower (inner.set name slot :: rest) := by
  cases matched with
  | @known registry number =>
    rw [Keyed.lookup_map] at stands
    obtain ⟨ty, known, rfl⟩ := Option.map_eq_some_iff.mp stands
    exact Or.inl ⟨ty, rfl, by simp [find?, Registry.get?, known]⟩
  | @block definitions outer' _ _ aligned rest =>
    obtain ⟨node, defined, fits⟩ := aligned.flip.lookup stands
    refine Or.inr ⟨node, by simp only [find?, defined], fits, ?_⟩
    intro lower inner rest slot matched fits
    cases matched with
    | block aligned rest => exact .block (aligned.insert_right defined fits) rest

end Env.Matches

end SchemaTypes
