import SchemaTypes.Proofs.Budget
import SchemaTypes.Proofs.Faithful
import SchemaTypes.Proofs.Mirroring

/-! What a compilation reads of a schema. Keywords that say nothing about a type, and the order of
keywords in a node, have no influence: schemas that read alike compile to the same type or fail with
the same error. -/
namespace SchemaTypes

/-- The keywords of a node whose values count as they are. -/
def Node.valueKeywords : List String :=
  ["$ref", "type", "required", "title", "description", "uniqueItems", "const", "enum", "format",
    "minLength", "maxLength"]

/-- Objects with the same names in the same order and related nodes; whatever else a keyword holds is
the same. -/
inductive Json.NamedAlike (related : Json → Json → Prop) : Json → Json → Prop where
  | same (value : Json) : NamedAlike related value value
  | nodes {nodes nodes' : Members} : Keyed.keys nodes' = Keyed.keys nodes →
      List.Forall₂ related (nodes.map Prod.snd) (nodes'.map Prod.snd) →
      NamedAlike related (.obj nodes) (.obj nodes')

/-- Schemas that hold the same values, and related nodes, wherever something is read. Their nodes may
have any other keywords, and all keywords in any order. -/
inductive Json.ReadsAs : Json → Json → Prop where
  | same (node : Json) : ReadsAs node node
  | object {members members' : Members} :
      (∀ keyword ∈ Node.valueKeywords, members'.get? keyword = members.get? keyword) →
      (∀ keyword ∈ "properties" :: Definitions.keywords,
        Option.Rel (NamedAlike ReadsAs) (members.get? keyword) (members'.get? keyword)) →
      Option.Rel ReadsAs (members.get? "items") (members'.get? "items") →
      (∀ keyword ∈ Node.combinators,
        Option.Rel (Node.AlikeItems ReadsAs) (members.get? keyword) (members'.get? keyword)) →
      ReadsAs (.obj members) (.obj members')
  | other {node node' : Json} :
      node.object? = none → node'.object? = none → ReadsAs node node'

variable {related : Json → Json → Prop} {members members' nodes nodes' : Members}

/-! ## Reading the same -/

namespace Keyed

theorem Aligned.of_keys {κ α β : Type} {R : α → β → Prop} {xs : List (κ × α)} {ys : List (κ × β)}
    (names : keys ys = keys xs) (values : List.Forall₂ R (xs.map Prod.snd) (ys.map Prod.snd)) :
    Aligned R xs ys := by
  induction xs generalizing ys with
  | nil =>
    cases ys with
    | nil => exact .nil
    | cons => cases names
  | cons x xs ih =>
    cases ys with
    | nil => cases names
    | cons y ys =>
      cases values with
      | cons first rest =>
        obtain ⟨name, others⟩ := List.cons.inj names
        exact .cons ⟨name.symm, first⟩ (ih others rest)

end Keyed

namespace Definitions

/-- Blocks with the same names and related bodies match. -/
theorem Matching.block {keyword : String}
    (alike : Option.Rel (Json.NamedAlike related) (members.get? keyword) (members'.get? keyword))
    (reflexive : ∀ node, related node node) :
    Matching related (Definitions.block members keyword)
      (Definitions.block members' keyword) := by
  unfold Definitions.block
  generalize members.get? keyword = held, members'.get? keyword = held' at alike
  cases alike with
  | none => exact .read .nil
  | some values =>
    cases values with
    | same => exact .refl reflexive _
    | nodes names values =>
      refine .read (List.forall₂_map_left_iff.mpr (List.forall₂_map_right_iff.mpr ?_))
      exact (Keyed.Aligned.of_keys names values).imp fun _ _ same => ⟨rfl, same.1.symm, same.2⟩

/-- The entries of a node match when its blocks do. -/
theorem Matching.entries (blocks : ∀ keyword ∈ keywords, Matching related
      (Definitions.block members keyword) (Definitions.block members' keyword)) :
    Matching related (Definitions.entries members) (Definitions.entries members') := by
  have first := blocks "definitions" (by decide)
  have second := blocks "$defs" (by decide)
  simp only [Definitions.entries, keywords, List.mapM_cons, List.mapM_nil]
  generalize Definitions.block members "definitions" = one,
    Definitions.block members' "definitions" = one' at first
  generalize Definitions.block members "$defs" = two,
    Definitions.block members' "$defs" = two' at second
  cases first with
  | unread fault => exact .unread fault
  | read first =>
    cases second with
    | unread fault => exact .unread fault
    | read second =>
      refine .read ?_
      simpa using List.rel_append first second

end Definitions

namespace Json.ReadsAs

variable {node node' : Json}

/-- What counts as it is is the same, also where a node is none. -/
theorem get? (reads : ReadsAs node node') {keyword : String}
    (listed : keyword ∈ Node.valueKeywords) : node'.get? keyword = node.get? keyword := by
  cases reads with
  | same => rfl
  | object values => exact values keyword listed
  | other none none' => simp only [Json.get?, none, none']

theorem properties
    (alike : Option.Rel (NamedAlike ReadsAs) (members.get? "properties")
      (members'.get? "properties")) :
    Option.Rel (Node.AlikeProperties ReadsAs) (members.get? "properties")
      (members'.get? "properties") := by
  have carried : ∀ keyword ∈ Object.carriedKeywords, keyword ∈ Node.valueKeywords := by decide
  generalize members.get? "properties" = held, members'.get? "properties" = held' at alike ⊢
  cases alike with
  | none => exact .none
  | some alike =>
    cases alike with
    | same => exact .some (.same _)
    | nodes names nodes =>
      refine .some (.properties ((Keyed.Aligned.of_keys names nodes).imp fun _ _ same => ?_))
      exact ⟨same.1, same.2, fun keyword listed => same.2.get? (carried keyword listed)⟩

/-- Objects that read alike refer to the same, or have parts and definitions that read alike. -/
theorem matching_object (reads : ReadsAs (.obj members) (.obj members')) :
    Node.Matching ReadsAs members members' := by
  cases reads with
  | same => exact ⟨rfl, fun _ => .of_definitions .same fun _ _ => rfl, fun _ => .refl .same _⟩
  | object values named items combined =>
    have counts : ∀ keyword ∈ Node.plainKeywords, keyword ∈ Node.valueKeywords := by decide
    have blocks (keyword : String) (listed : keyword ∈ Definitions.keywords) :=
      named keyword (List.mem_cons_of_mem _ listed)
    exact ⟨values "$ref" (by decide),
      fun _ => ⟨fun keyword listed => values keyword (counts keyword listed), combined,
        properties (named _ List.mem_cons_self), items⟩,
      fun _ => .entries fun keyword listed => .block (blocks keyword listed) .same⟩
  | other none => cases none

/-- Nodes that read alike are compiled step by step alike. -/
theorem matching : Json.Matching ReadsAs where
  reflexive := .same
  object := by
    intro members node' reads
    cases node' with
    | obj members' => exact ⟨members', rfl, matching_object reads⟩
    | _ =>
      cases reads with
      | other none => cases none
  other := by
    intro node node' none reads
    cases reads with
    | same => exact none
    | object => cases none
    | other _ none' => exact none'

end Json.ReadsAs

/-! ## Compiling the same -/

variable {schema schema' : Json}

/-- Types known beforehand agree with themselves. -/
theorem Scope.Agrees.ofRegistry (registry : Registry) :
    Scope.Agrees (.ofRegistry registry) (.ofRegistry registry) := by
  intro name
  cases known : registry.get? name with
  | none => exact .inl ⟨by simp [known], by simp [known]⟩
  | some ty => exact .inr ⟨ty, knows_ofRegistry.mpr known, knows_ofRegistry.mpr known⟩

/-- Nodes that match end alike at every depth. -/
theorem Node.compile_fst_matching (matching : Json.Matching related) (same : related schema schema')
    (loader : Loader) (registry : Registry) (depth : Nat) :
    (Node.compile loader depth schema (State.start registry)).1 =
      (Node.compile loader depth schema' (State.start registry)).1 := by
  have closed :=
    Compile.Mirrors.congruence matching (Scope.Agrees.ofRegistry registry) (.refl loader)
  have mirrors : State.Mirrors related [] (.ofRegistry registry) (.ofRegistry registry) 0
      (State.start registry) (State.start registry) :=
    ⟨rfl, rfl, List.nil_subset _, .outer, rfl⟩
  exact (closed.compile depth same 0 _ _ mirrors).outcome.symm

/-- Schemas that read alike have the same outcome, with whatever documents and types there are. -/
theorem CompilesTo.reads_iff (reads : schema.ReadsAs schema') {loader : Loader}
    {registry : Registry} {outcome : Except CompileError Ty} :
    CompilesTo loader (.inline schema) registry outcome ↔
      CompilesTo loader (.inline schema') registry outcome :=
  inline_congr fun depth (_ : depth ≥ 0) =>
    Node.compile_fst_matching Json.ReadsAs.matching reads loader registry depth

/-- With local references only the budget is never used up. -/
theorem Json.Local.ends (isLocal : schema.Local) (loader : Loader) (registry : Registry) :
    compile loader (.inline schema) registry ≠ .error .exhausted := by
  have ends : (Node.compile loader (Compilation.depth loader schema) schema).EndsFrom
      (State.start registry) := by
    refine Node.compile_ends (Ration.local_covers loader) _ schema 0 isLocal ?_ _
      (State.Within.start _ registry)
    unfold Compilation.depth
    omega
  exact ends

/-- Keywords that are not read and the order of keywords never influence the outcome: schemas without
references to other documents that read alike compile to the same type or fail with the same
error. -/
theorem compile_reads_alike (isLocal : schema.Local) (isLocal' : schema'.Local)
    (reads : schema.ReadsAs schema') (loader : Loader) (registry : Registry) :
    compile loader (.inline schema) registry = compile loader (.inline schema') registry := by
  have found : CompilesTo loader (.inline schema) registry
      (compile loader (.inline schema) registry) := .of_compile rfl (isLocal.ends loader registry)
  have same := (CompilesTo.reads_iff reads).mp found
  exact (same.compile_eq (isLocal'.ends loader registry)).symm

/-- Lists of numbers, with a bound in the definition and a keyword beside it that is not read. -/
def boundedNumbers : Members :=
  [("definitions", .obj [("n", .obj [("type", .str "number"), ("minimum", .str "0")])]),
    ("type", .str "array"), ("items", .obj [("$ref", .str "#/definitions/n")]), ("not", .obj [])]

/-- The same lists with other things beside them, in another order. -/
def conditionalNumbers : Members :=
  [("if", .null), ("items", .obj [("$ref", .str "#/definitions/n")]),
    ("definitions", .obj [("n", .obj [("$comment", .str "any"), ("type", .str "number")])]),
    ("type", .str "array")]

/-- A node with items at most, and definitions at most under the one keyword, is local with them. -/
theorem Json.Local.of_parts (plain : members.get? "$ref" = none)
    (properties : members.get? "properties" = none) (oneOf : members.get? "oneOf" = none)
    (allOf : members.get? "allOf" = none) (defs : members.get? "$defs" = none)
    (items : ∀ node, members.get? "items" = some node → node.Local)
    (bodies : ∀ definitions, members.get? "definitions" = some (.obj definitions) →
      ∀ definition ∈ definitions, definition.2.Local) : Json.Local (.obj members) := by
  refine .object (by simp [plain]) (fun path node part => ?_) fun keyword listed block found => ?_
  · cases part with
    | alternative found => cases oneOf.symm.trans found
    | conjunct found => cases allOf.symm.trans found
    | property found => cases properties.symm.trans found
    | items found => exact items node found
  · rcases List.mem_cons.mp listed with rfl | listed
    · exact bodies block found
    · cases List.mem_singleton.mp listed
      cases defs.symm.trans found

theorem boundedNumbers_local : Json.Local (.obj boundedNumbers) := by
  have number : Json.Local (.obj [("type", .str "number"), ("minimum", .str "0")]) :=
    .of_parts rfl rfl rfl rfl rfl (by rintro _ ⟨⟩) (by rintro _ ⟨⟩)
  refine .of_parts rfl rfl rfl rfl rfl ?_ ?_
  · rintro _ ⟨⟩
    exact .single (by decide)
  · rintro _ ⟨⟩
    exact List.forall_mem_singleton.mpr number

theorem conditionalNumbers_local : Json.Local (.obj conditionalNumbers) := by
  have number : Json.Local (.obj [("$comment", .str "any"), ("type", .str "number")]) :=
    .of_parts rfl rfl rfl rfl rfl (by rintro _ ⟨⟩) (by rintro _ ⟨⟩)
  refine .of_parts rfl rfl rfl rfl rfl ?_ ?_
  · rintro _ ⟨⟩
    exact .single (by decide)
  · rintro _ ⟨⟩
    exact List.forall_mem_singleton.mpr number

theorem Json.ReadsAs.of_named
    (values : ∀ keyword ∈ Node.valueKeywords, members'.get? keyword = members.get? keyword)
    (definitions : Option.Rel (NamedAlike ReadsAs) (members.get? "definitions")
      (members'.get? "definitions"))
    (others : ∀ keyword ∈ "properties" :: "$defs" :: "items" :: Node.combinators,
      members'.get? keyword = members.get? keyword) : ReadsAs (.obj members) (.obj members') := by
  refine .object values (List.forall_mem_cons.mpr ⟨?_, List.forall_mem_cons.mpr
    ⟨definitions, List.forall_mem_singleton.mpr ?_⟩⟩) ?_ fun keyword listed => ?_
  · exact Node.alike_option .same (others "properties" (by simp))
  · exact Node.alike_option .same (others "$defs" (by simp))
  · exact Node.alike_option .same (others "items" (by simp))
  · exact Node.alike_option .same (others keyword (by simp [listed]))

theorem boundedNumbers_readsAs :
    Json.ReadsAs (.obj boundedNumbers) (.obj conditionalNumbers) := by
  have number : Json.ReadsAs (.obj [("type", .str "number"), ("minimum", .str "0")])
      (.obj [("$comment", .str "any"), ("type", .str "number")]) :=
    .of_named (by simp [Node.valueKeywords, Members.get?, Keyed.lookup_cons]) .none
      (by simp [Node.combinators, Members.get?, Keyed.lookup_cons])
  refine .of_named ?_ (.some (.nodes rfl (.cons number .nil))) ?_
  · simp [boundedNumbers, conditionalNumbers, Node.valueKeywords, Members.get?, Keyed.lookup_cons]
  · simp [boundedNumbers, conditionalNumbers, Node.combinators, Members.get?, Keyed.lookup_cons]

theorem compile_reads_alike_boundedNumbers :
    Json.Local (.obj boundedNumbers) ∧ Json.Local (.obj conditionalNumbers) ∧
      Json.ReadsAs (.obj boundedNumbers) (.obj conditionalNumbers) ∧
      compile Bundle.empty.loader (.inline (.obj boundedNumbers)) .empty =
        compile Bundle.empty.loader (.inline (.obj conditionalNumbers)) .empty := by
  exact ⟨boundedNumbers_local, conditionalNumbers_local, boundedNumbers_readsAs,
    compile_reads_alike boundedNumbers_local conditionalNumbers_local boundedNumbers_readsAs _ _⟩

end SchemaTypes
