import SchemaTypes.Proofs.Body
import SchemaTypes.Proofs.Pointer

/-! What a schema means, told without slots and without a state. A node is judged in the blocks of
definitions around it, and a name means the body of its innermost definition, judged in the blocks
around that definition. The judgement is the least one that is closed under its rules. -/
namespace SchemaTypes

/-- The blocks of definitions around a node; the types that are known beforehand are outside of
all. -/
inductive Env where
  | known (registry : Registry)
  | block (definitions : Members) (outer : Env)

/-- What a name means: a type, or a body in the environment of its definition. -/
inductive Env.Meaning where
  | type (ty : Ty)
  | body (env : Env) (node : Json)

/-- The one block that the entries of a node make; of two entries of one name the later counts. -/
def Definitions.effective (entries : List Definitions.Entry) : Members :=
  Keyed.ofPairs (entries.map fun entry => (entry.name, entry.node))

namespace Env

/-- The innermost meaning of a name. -/
def find? : Env → String → Option Meaning
  | known registry, name => (registry.get? name).map .type
  | block definitions outer, name =>
    match definitions.lookup name with
    | some node => some (.body (block definitions outer) node)
    | none => outer.find? name

/-- The environment of what is inside a node with these entries. -/
def inside (env : Env) (entries : List Definitions.Entry) : Env :=
  if entries.isEmpty then env else .block (Definitions.effective entries) env

/-- The type that a name stands for, if bodies have the types that they are judged to have. -/
inductive Means (derives : Env → Json → Ty → Prop) (env : Env) (name : String) : Ty → Prop where
  | type {ty : Ty} : env.find? name = some (.type ty) → Means derives env name ty
  | body {declared : Env} {node : Json} {ty : Ty} : env.find? name = some (.body declared node) →
      derives declared node ty → Means derives env name ty

end Env

/-- The rules for the type of a node. A reference is a name and nothing else; any other node is
composed of its parts inside its own definitions, all of which must have a type. -/
inductive Rule (derives : Env → Json → Ty → Prop) (env : Env) : Json → Ty → Prop where
  | reference {members : Members} {reference name : String} {ty : Ty} :
      members.get? "$ref" = some (.str reference) → Reference.Names reference name →
      env.Means derives name ty → Rule derives env (.obj members) ty
  | node {members : Members} {entries : List Definitions.Entry} {ty : Ty} :
      members.get? "$ref" = none → Definitions.entries members = .ok entries →
      (∀ definition ∈ Definitions.effective entries,
        ∃ ty, derives (env.inside entries) definition.2 ty) →
      Node.Composed (derives (env.inside entries)) members ty → Rule derives env (.obj members) ty

/-- Derivations up to a height. -/
def DerivesIn : Nat → Env → Json → Ty → Prop
  | 0, _, _, _ => False
  | height + 1, env, node, ty => Rule (DerivesIn height) env node ty

/-- A node has a type in an environment. -/
def Derives (env : Env) (node : Json) (ty : Ty) : Prop := ∃ height, DerivesIn height env node ty

variable {judged judged' : Env → Json → Ty → Prop} {env : Env} {node : Json} {name : String}
  {ty ty' : Ty} {height taller : Nat}

/-- What holds of each of many things at some stage holds of all at one stage. -/
theorem List.exists_stage {α : Type} {holds : Nat → α → Prop}
    (grows : ∀ {n m a}, n ≤ m → holds n a → holds m a) {list : List α}
    (each : ∀ a ∈ list, ∃ n, holds n a) : ∃ n, ∀ a ∈ list, holds n a := by
  induction list with
  | nil => exact ⟨0, by simp⟩
  | cons a rest ih =>
    obtain ⟨⟨m, first⟩, others⟩ := List.forall_mem_cons.mp each
    obtain ⟨n, others⟩ := ih others
    refine ⟨max m n, List.forall_mem_cons.mpr ⟨?_, fun other member => ?_⟩⟩
    · exact grows (Nat.le_max_left m n) first
    · exact grows (Nat.le_max_right m n) (others other member)

/-- What does not hold at the start does not hold up to some stage, and right above it if any. -/
theorem Nat.exists_threshold (holds : Nat → Prop) (never : ¬holds 0) (height : Nat) :
    ∃ low ≤ height, ¬holds low ∧ (low = height ∨ low < height ∧ holds (low + 1)) := by
  induction height with
  | zero => exact ⟨0, Nat.le_refl 0, never, .inl rfl⟩
  | succ height ih =>
    obtain ⟨low, within, refused, above⟩ := ih
    by_cases above' : holds (height + 1)
    · refine ⟨low, Nat.le_succ_of_le within, refused, .inr ⟨Nat.lt_succ_of_le within, ?_⟩⟩
      rcases above with rfl | ⟨-, above⟩
      · exact above'
      · exact above
    · exact ⟨height + 1, Nat.le_refl _, above', .inl rfl⟩

theorem Env.Means.imp (means : env.Means judged name ty)
    (weaker : ∀ env node ty, judged env node ty → judged' env node ty) :
    env.Means judged' name ty := by
  cases means with
  | type found => exact .type found
  | body found derived => exact .body found (weaker _ _ _ derived)

theorem Rule.imp (rule : Rule judged env node ty)
    (weaker : ∀ env node ty, judged env node ty → judged' env node ty) :
    Rule judged' env node ty := by
  cases rule with
  | reference ref names means => exact .reference ref names (means.imp weaker)
  | node plain read bodies composed =>
    refine .node plain read (fun definition member => ?_) ?_
    · obtain ⟨ty, derived⟩ := bodies definition member
      exact ⟨ty, weaker _ _ _ derived⟩
    · rw [← Node.yields_iff_composed] at composed ⊢
      exact composed.imp (weaker _)

theorem DerivesIn.succ (derived : DerivesIn height env node ty) :
    DerivesIn (height + 1) env node ty := by
  induction height generalizing env node ty with
  | zero => exact derived.elim
  | succ height ih => exact Rule.imp derived fun _ _ _ => ih

theorem DerivesIn.mono (within : height ≤ taller) (derived : DerivesIn height env node ty) :
    DerivesIn taller env node ty := by
  induction within with
  | refl => exact derived
  | step _ ih => exact ih.succ

theorem DerivesIn.derives (derived : DerivesIn height env node ty) : Derives env node ty :=
  ⟨height, derived⟩

theorem Derives.rule (derived : Derives env node ty) : Rule Derives env node ty := by
  obtain ⟨height, derived⟩ := derived
  cases height with
  | zero => exact derived.elim
  | succ height => exact Rule.imp derived fun _ _ _ => DerivesIn.derives

/-- Many derivations have a height in common. -/
theorem Derives.bounded {definitions : Members}
    (derived : ∀ definition ∈ definitions, ∃ ty, Derives env definition.2 ty) :
    ∃ height, ∀ definition ∈ definitions, ∃ ty, DerivesIn height env definition.2 ty := by
  refine List.exists_stage (fun within derived => ?_) fun definition member => ?_
  · exact derived.imp fun _ derived => derived.mono within
  · obtain ⟨ty, height, derived⟩ := derived definition member
    exact ⟨height, ty, derived⟩

theorem Derives.of_rule (rule : Rule Derives env node ty) : Derives env node ty := by
  cases rule with
  | reference ref names means =>
    cases means with
    | type found => exact ⟨1, .reference ref names (.type found)⟩
    | body found derived =>
      obtain ⟨height, derived⟩ := derived
      exact ⟨height + 1, .reference ref names (.body found derived)⟩
  | @node members entries _ plain read bodies composed =>
    obtain ⟨n, bodies⟩ := Derives.bounded bodies
    obtain ⟨m, composed⟩ : ∃ m, (Node.body members).Yields (DerivesIn m (env.inside entries)) ty :=
      Plan.Yields.bounded (fun within derived => derived.mono within)
        (Node.yields_of_composed composed)
    refine ⟨max n m + 1, .node plain read (fun definition member => ?_) ?_⟩
    · obtain ⟨ty, derived⟩ := bodies definition member
      exact ⟨ty, derived.mono (Nat.le_max_left n m)⟩
    · exact Node.composed_of_yields
        (composed.imp fun _ _ derived => derived.mono (Nat.le_max_right n m))

/-- The judgement is closed under its rules, and nothing is judged otherwise. -/
theorem derives_iff_rule : Derives env node ty ↔ Rule Derives env node ty :=
  ⟨Derives.rule, Derives.of_rule⟩

/-- The judgement is the least one that is closed under its rules. -/
theorem Derives.least (closed : ∀ env node ty, Rule judged env node ty → judged env node ty)
    (derived : Derives env node ty) : judged env node ty := by
  obtain ⟨height, derived⟩ := derived
  induction height generalizing env node ty with
  | zero => exact derived.elim
  | succ height ih => exact closed _ _ _ (Rule.imp derived fun _ _ _ => ih)

/-- All entries of a node have types by their names exactly when all effective bodies have types. -/
theorem Env.means_entries {entries : List Definitions.Entry} :
    (∀ entry ∈ entries, ∃ ty, (env.inside entries).Means judged entry.name ty) ↔
      ∀ definition ∈ Definitions.effective entries,
        ∃ ty, judged (env.inside entries) definition.2 ty := by
  cases entries with
  | nil => simp [Definitions.effective, Keyed.ofPairs, Keyed.insertAll]
  | cons first rest =>
    have stands {name : String} {body : Json}
        (found : (Definitions.effective (first :: rest)).lookup name = some body) :
        (env.inside (first :: rest)).find? name =
          some (.body (env.inside (first :: rest)) body) := by
      simp only [inside, List.isEmpty_cons, Bool.false_eq_true, if_false, find?, found]
    constructor
    · intro means definition member
      obtain ⟨entry, here, same⟩ := List.mem_map.mp (Keyed.mem_ofPairs member)
      have found := Keyed.lookup_of_mem (Keyed.nodup_ofPairs _) member
      obtain ⟨ty, means⟩ := means entry here
      rw [← same] at found ⊢
      cases means with
      | type found' =>
        rw [stands found] at found'
        cases found'
      | body found' derived =>
        rw [stands found] at found'
        cases found'
        exact ⟨ty, derived⟩
    · intro bodies entry member
      have named : entry.name ∈ Keyed.keys (Definitions.effective (first :: rest)) :=
        Keyed.mem_keys_ofPairs (List.mem_map.mpr ⟨_, List.mem_map_of_mem member, rfl⟩)
      obtain ⟨body, found⟩ := Keyed.exists_lookup named
      obtain ⟨ty, derived⟩ := bodies _ (Keyed.mem_of_lookup found)
      exact ⟨ty, .body (stands found) derived⟩

/-- Below a height a node has no derivation up to some point, and one right above it if any. -/
theorem DerivesIn.threshold (height : Nat) (env : Env) (node : Json) :
    ∃ low ≤ height, (∀ ty, ¬DerivesIn low env node ty) ∧
      ((∃ ty, DerivesIn (low + 1) env node ty) ∨ low = height) := by
  obtain ⟨low, within, refused, above⟩ :=
    Nat.exists_threshold (∃ ty, DerivesIn · env node ty) (fun ⟨_, derived⟩ => derived) height
  exact ⟨low, within, not_exists.mp refused, above.symm.imp_left And.right⟩

/-! ## One node, one type -/

theorem Env.Means.unique (left : env.Means judged name ty) (right : env.Means judged' name ty')
    (unique : ∀ env node ty ty', judged env node ty → judged' env node ty' → ty = ty') :
    ty = ty' := by
  cases left with
  | type found =>
    cases right with
    | type found' =>
      rw [found] at found'
      cases found'
      rfl
    | body found' =>
      rw [found] at found'
      cases found'
  | body found derived =>
    cases right with
    | type found' =>
      rw [found] at found'
      cases found'
    | body found' derived' =>
      rw [found] at found'
      cases found'
      exact unique _ _ _ _ derived derived'

theorem Reference.Names.unique {reference other : String} (left : Names reference name)
    (right : Names reference other) : name = other := by
  obtain ⟨fragment, here, named⟩ := names_iff.mp left
  obtain ⟨fragment', here', named'⟩ := names_iff.mp right
  rw [here] at here'
  cases here'
  rw [named] at named'
  exact Option.some.inj named'

theorem DerivesIn.unique (left : DerivesIn height env node ty)
    (right : DerivesIn taller env node ty') : ty = ty' := by
  induction height generalizing taller env node ty ty' with
  | zero => exact left.elim
  | succ height ih =>
    cases taller with
    | zero => exact right.elim
    | succ taller =>
      cases left with
      | reference ref names means =>
        cases right with
        | reference ref' names' means' =>
          rw [ref] at ref'
          cases ref'
          cases names.unique names'
          exact means.unique means' fun _ _ _ _ => ih
        | node plain =>
          rw [ref] at plain
          cases plain
      | node plain read _ composed =>
        cases right with
        | reference ref =>
          rw [plain] at ref
          cases ref
        | node _ read' _ composed' =>
          rw [read] at read'
          cases read'
          exact (Node.yields_of_composed composed).unique (Node.yields_of_composed composed')
            fun _ _ _ => ih

theorem Derives.unique (left : Derives env node ty) (right : Derives env node ty') : ty = ty' := by
  obtain ⟨height, left⟩ := left
  obtain ⟨taller, right⟩ := right
  exact left.unique right

theorem Env.Means.unique_low (left : env.Means Derives name ty)
    (right : env.Means (DerivesIn height) name ty') : ty = ty' :=
  left.unique right fun _ _ _ _ left right => left.unique right.derives

end SchemaTypes
