import Mathlib.Logic.Relation
import SchemaTypes.Proofs.Budget
import SchemaTypes.Proofs.Invariance
import SchemaTypes.Proofs.Verdict

/-! Definitions in another order. What a schema denotes does not depend on the order in which the
entries of its blocks are declared, and a schema compiles to what it denotes. The order still decides
which documents are open when a body is compiled, so a schema may fail at a document that it refers
to while it is open where a reordered one compiles. -/
namespace SchemaTypes

/-- Schemas that differ in the order of the entries of one block of definitions, which may be any
number of nodes down. -/
inductive Json.Reordered : Json → Json → Prop where
  | refl (node : Json) : Reordered node node
  | entries {members definitions definitions' : Members} {keyword : String} :
      keyword ∈ Definitions.keywords → members.get? keyword = some (.obj definitions) →
      (Keyed.keys definitions).Nodup → definitions.Perm definitions' →
      Reordered (.obj members) (.obj (Keyed.insert members keyword (.obj definitions')))
  | body {members definitions : Members} {keyword name : String} {node node' : Json} :
      keyword ∈ Definitions.keywords → members.get? keyword = some (.obj definitions) →
      definitions.lookup name = some node → Reordered node node' →
      Reordered (.obj members)
        (.obj (Keyed.insert members keyword (.obj (Keyed.insert definitions name node'))))
  | items {members : Members} {node node' : Json} :
      members.get? "items" = some node → Reordered node node' →
      Reordered (.obj members) (.obj (Keyed.insert members "items" node'))
  | listed {members : Members} {keyword : String} {nodes : List Json} {i : Nat}
      {node node' : Json} :
      keyword ∈ Node.combinators → members.get? keyword = some (.arr nodes) →
      nodes[i]? = some node → Reordered node node' →
      Reordered (.obj members) (.obj (Keyed.insert members keyword (.arr (nodes.set i node'))))
  | property {members properties : Members} {key : String} {node node' : Json} :
      members.get? "properties" = some (.obj properties) → properties.lookup key = some node →
      Reordered node node' →
      Reordered (.obj members)
        (.obj (Keyed.insert members "properties" (.obj (Keyed.insert properties key node'))))
  /-- Somewhere below a keyword that nothing is compiled under. -/
  | aside {members : Members} {keyword : String} {value value' : Json} :
      keyword ∉ Node.readKeywords → members.get? keyword = some value →
      Reordered (.obj members) (.obj (Keyed.insert members keyword value'))

namespace Json.Reordered

variable {node node' : Json} {members members' : Members}

theorem get? (reordered : Reordered node node') {keyword : String}
    (fixed : keyword ∈ Object.fieldKeywords) : node'.get? keyword = node.get? keyword := by
  obtain ⟨definitions, combinator, items, properties, read⟩ :=
    Node.fieldKeywords_apart keyword fixed
  cases reordered with
  | refl => rfl
  | entries listed | body listed =>
    exact Json.get?_insert_of_ne fun same => definitions (same ▸ listed)
  | items => exact Json.get?_insert_of_ne items
  | listed listed => exact Json.get?_insert_of_ne fun same => combinator (same ▸ listed)
  | property => exact Json.get?_insert_of_ne properties
  | aside unread => exact Json.get?_insert_of_ne fun same => unread (same ▸ read)

theorem rearranged_of_part {keyword : String} {value : Json}
    (other : keyword ∉ "$ref" :: Definitions.keywords)
    (body : Node.Alike Reordered members (Keyed.insert members keyword value)) :
    Node.Rearranged Reordered members (Keyed.insert members keyword value) := by
  obtain ⟨reference, entries⟩ := Definitions.insert_apart other members value
  refine ⟨reference, body, ?_⟩
  rw [entries]
  exact .refl .refl _

theorem rearranged_of_definitions {definitions definitions' : Members} {keyword : String}
    (listed : keyword ∈ Definitions.keywords) (held : members.get? keyword = some (.obj definitions))
    (corresponds : Definitions.Corresponds Reordered (Definitions.listed keyword definitions)
      (Definitions.listed keyword definitions')) :
    Node.Rearranged Reordered members (Keyed.insert members keyword (.obj definitions')) := by
  have same : ∀ keyword' ∉ Definitions.keywords,
      Members.get? (Keyed.insert members keyword (.obj definitions')) keyword' =
        members.get? keyword' := by
    intro keyword' unlisted
    refine Keyed.lookup_insert_of_ne ?_ _ _
    rintro rfl
    exact unlisted listed
  exact ⟨same _ (by decide), .of_definitions .refl same,
    .entries fun keyword' _ => .of_insert .refl held corresponds keyword'⟩

theorem correspondence : Json.Correspondence Reordered where
  reflexive := .refl
  other := by
    intro node node' none reordered
    cases reordered with
    | refl => rfl
    | _ => cases none
  object := by
    intro members node' reordered
    cases reordered with
    | refl => exact ⟨members, rfl, rfl, .of_definitions .refl fun _ _ => rfl, .refl .refl _⟩
    | entries listed held distinct permuted =>
      exact ⟨_, rfl, rearranged_of_definitions listed held (.of_perm .refl _ distinct permuted)⟩
    | body listed held found inner =>
      refine ⟨_, rfl, rearranged_of_definitions listed held (.of_aligned _ ?_)⟩
      refine Keyed.Aligned.insert_right ?_ found inner
      exact List.forall₂_same.mpr fun entry _ => ⟨rfl, .refl entry.2⟩
    | items held inner =>
      exact ⟨_, rfl, rearranged_of_part (by decide) (.of_items .refl held inner)⟩
    | @listed _ keyword _ _ _ _ listed held found inner =>
      have others : ∀ keyword ∈ Node.combinators, keyword ∉ "$ref" :: Definitions.keywords := by
        decide
      exact ⟨_, rfl, rearranged_of_part (others keyword listed)
        (.of_listed .refl listed held found inner)⟩
    | property held found inner =>
      refine ⟨_, rfl, rearranged_of_part (by decide) (.of_property .refl held found ?_)⟩
      exact ⟨inner, fun keyword carried => inner.get? (List.mem_append_left _ carried)⟩
    | @aside _ keyword _ _ unread held =>
      have read : ∀ keyword ∈ "$ref" :: Definitions.keywords, keyword ∈ Node.readKeywords := by
        decide
      exact ⟨_, rfl, rearranged_of_part (fun listed => unread (read keyword listed))
        (.of_aside .refl unread held)⟩

end Json.Reordered

variable {loader : Loader} {registry : Registry} {schema schema' : Json} {ty : Ty}

/-- A schema that compiles compiles to what it denotes. -/
theorem CompilesTo.denotes (compiled : CompilesTo loader (.inline schema) registry (.ok ty)) :
    Denotes loader ⟨none, .known registry⟩ schema ty := by
  obtain ⟨depth, after, ran⟩ := CompilesTo.inline_ok_iff.mp compiled
  have tells := Node.compile_tells loader depth ⟨none, .known registry⟩ 0 0 schema (Nat.zero_le _)
    (Nat.zero_le _) _ (.at_start loader 0 registry)
  exact (tells.gives ty after ran).1

/-- The compilation fails at a reference to another document that it opened before. -/
def Compilation.Reenters (loader : Loader) (compilation : Compilation) : Prop :=
  ∃ error, compilation.outcome = .error error ∧ error.Reenters loader compilation.events

/-- With a budget that is not used up, the compilation of a source fails at a document that it opened
before. -/
def Reenters (loader : Loader) (source : Source) (registry : Registry) : Prop :=
  ∃ budget, (Compilation.run (loader.withBudget budget) source registry).Reenters loader

/-- What compiles enters no document again. -/
theorem CompilesTo.not_reenters {source : Source}
    (compiled : CompilesTo loader source registry (.ok ty)) : ¬Reenters loader source registry := by
  rintro ⟨budget, error, failed, reenters⟩
  have ends : (.error error : Except CompileError Ty) ≠ .error .exhausted := by
    rintro ⟨⟩
    exact reenters
  cases compiled.unique ⟨ends, budget, failed⟩

theorem CompileError.Reenters.reverse {journal : List Event} {error : CompileError}
    (reenters : error.Reenters loader journal) : error.Reenters loader journal.reverse := by
  cases error with
  | cyclicReference reference position =>
    obtain ⟨outside, location, document, asked, found⟩ := reenters
    exact ⟨outside, location, document, by simpa [List.filterMap_reverse] using asked, found⟩
  | _ => exact reenters

/-- A schema that denotes a type compiles to it, or else it fails at a document that it reenters. -/
theorem Denotes.compiles (denotes : Denotes loader ⟨none, .known registry⟩ schema ty) :
    CompilesTo loader (.inline schema) registry (.ok ty) ∨
      Reenters loader (.inline schema) registry := by
  obtain ⟨height, derived⟩ := denotes
  have tells := Node.compile_tells loader height ⟨none, .known registry⟩ height height schema
    (Nat.le_succ height) (Nat.le_refl height) _ (.at_start loader height registry)
  cases ended : Node.compile loader height schema (State.start registry) with
  | mk outcome after =>
    cases outcome with
    | ok other =>
      obtain ⟨denoted, -⟩ := tells.gives other after ended
      cases denoted.unique derived.denotes
      exact .inl (CompilesTo.inline_ok_iff.mpr ⟨height, after, ended⟩)
    | error error =>
      rcases tells.fails error after ended with reenters | never
      · have ends : (.error error : Except CompileError Ty) ≠ .error .exhausted := by
          rintro ⟨⟩
          exact reenters
        refine .inr ⟨height, error, ?_⟩
        rw [Compilation.run_of_ended ends ended]
        exact ⟨rfl, reenters.reverse⟩
      · exact (never ty derived).elim

/-- The order of definitions does not count for what a schema denotes. -/
theorem Denotes.reordered_iff (reordered : Relation.EqvGen Json.Reordered schema schema') :
    Denotes loader ⟨none, .known registry⟩ schema ty ↔
      Denotes loader ⟨none, .known registry⟩ schema' ty := by
  induction reordered with
  | rel schema schema' step =>
    exact Denotes.congr Json.Reordered.correspondence _ _ schema schema' ty
      ⟨rfl, .known registry⟩ step
  | refl => rfl
  | symm _ _ _ ih => exact ih.symm
  | trans _ _ _ _ _ first second => exact first.trans second

/-- When a schema compiles, it compiles to the same type with its definitions in any other order, in
any number of its blocks, or else the reordered schema fails at a reference to another document that
it opened before. -/
theorem compile_reordered (loader : Loader) (registry : Registry) {schema schema' : Json} {ty : Ty}
    (reordered : Relation.EqvGen Json.Reordered schema schema')
    (compiled : CompilesTo loader (.inline schema) registry (.ok ty)) :
    CompilesTo loader (.inline schema') registry (.ok ty) ∨
      Reenters loader (.inline schema') registry := by
  have denotes : Denotes loader ⟨none, .known registry⟩ schema' ty :=
    (Denotes.reordered_iff reordered).mp compiled.denotes
  exact denotes.compiles

/-- Where there are no other documents, the order of definitions does not count at all. -/
theorem CompilesTo.reordered_iff (alone : ∀ location document, loader.load location ≠ .ok document)
    (reordered : Relation.EqvGen Json.Reordered schema schema') :
    CompilesTo loader (.inline schema) registry (.ok ty) ↔
      CompilesTo loader (.inline schema') registry (.ok ty) := by
  have never (schema : Json) : ¬Reenters loader (.inline schema) registry := by
    rintro ⟨budget, error, -, reenters⟩
    cases error with
    | cyclicReference reference position =>
      obtain ⟨-, location, document, -, loaded, -⟩ := reenters
      exact alone location document loaded
    | _ => exact reenters
  have whole {schema : Json} : CompilesTo loader (.inline schema) registry (.ok ty) ↔
      Denotes loader ⟨none, .known registry⟩ schema ty :=
    ⟨CompilesTo.denotes, fun denotes => denotes.compiles.resolve_right (never schema)⟩
  rw [whole, whole]
  exact Denotes.reordered_iff reordered

/-- A document with a part that refers to a definition of whoever refers to the document. -/
def callingBack : Bundle :=
  ⟨[("x.json", .obj [("properties", .obj [("p", .obj [("type", .str "number")]),
    ("q", .obj [("$ref", .str "#/definitions/b")])])])]⟩

def numberWith (definitions : Members) : Json :=
  .obj [("definitions", .obj definitions), ("type", .str "number")]

def toCaller : String × Json := ("a", .obj [("$ref", .str "x.json#/properties/q")])

def toNumber : String × Json := ("b", .obj [("$ref", .str "x.json#/properties/p")])

def toSibling : String × Json := ("a", .obj [("$ref", .str "#/definitions/b")])

theorem numberWith_reordered {first second : String × Json} (apart : first.1 ≠ second.1) :
    Json.Reordered (numberWith [first, second]) (numberWith [second, first]) := by
  have held : Members.get? [("definitions", .obj [first, second]), ("type", .str "number")]
      "definitions" = some (.obj [first, second]) := rfl
  exact .entries (by decide) held (by simpa [Keyed.keys] using apart)
    (List.Perm.swap second first [])

theorem numberWith_compiles : compile callingBack.loader (.inline (numberWith [toNumber, toCaller]))
    .empty = .ok (.leaf .number) :=
  (Ty.Told.leaf _).ok (by decide +kernel)

/-- In both orders a definition that another one refers to is compiled, from its document, before the
other one ends. -/
theorem compile_reordered_numberWith :
    Relation.EqvGen Json.Reordered (numberWith [toNumber, toSibling])
        (numberWith [toSibling, toNumber]) ∧
      CompilesTo callingBack.loader (.inline (numberWith [toNumber, toSibling])) .empty
        (.ok (.leaf .number)) ∧
      CompilesTo callingBack.loader (.inline (numberWith [toSibling, toNumber])) .empty
        (.ok (.leaf .number)) := by
  have reordered : Relation.EqvGen Json.Reordered (numberWith [toNumber, toSibling])
      (numberWith [toSibling, toNumber]) := .rel _ _ (numberWith_reordered (by decide))
  have compiled : CompilesTo callingBack.loader (.inline (numberWith [toNumber, toSibling])) .empty
      (.ok (.leaf .number)) := Bundle.compilesTo_iff.mpr ((Ty.Told.leaf _).ok (by decide +kernel))
  have ends : (compile callingBack.loader (.inline (numberWith [toSibling, toNumber]))
      .empty).toOption.any (fun _ => true) = true := by decide +kernel
  obtain ⟨ty, ran, -⟩ := exists_ok_of_test ends
  have never := (Bundle.compilesTo_iff.mpr ran).not_reenters
  exact ⟨reordered, compiled, (compile_reordered _ _ reordered compiled).resolve_right never⟩

/-- The order does count: when the body that comes first opens the document, the one that it asks for
cannot open it again. -/
theorem compile_order_counts :
    Json.Reordered (numberWith [toNumber, toCaller]) (numberWith [toCaller, toNumber]) ∧
      compile callingBack.loader (.inline (numberWith [toNumber, toCaller])) .empty =
        .ok (.leaf .number) ∧
      ∀ ty, compile callingBack.loader (.inline (numberWith [toCaller, toNumber])) .empty ≠
        .ok ty := by
  refine ⟨numberWith_reordered (by decide), numberWith_compiles, fun ty compiled => ?_⟩
  have fails : (compile callingBack.loader (.inline (numberWith [toCaller, toNumber]))
      .empty).isOk = false := by decide +kernel
  rw [compiled] at fails
  cases fails

end SchemaTypes
