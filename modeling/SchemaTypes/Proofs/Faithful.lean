import SchemaTypes.Proofs.Decision
import SchemaTypes.Proofs.Depth

/-! Compiling a schema that refers to nothing outside of itself is judging it: slots, the order in
which bodies are demanded, and what is hidden meanwhile leave no trace in the result. -/
namespace SchemaTypes

/-- A schema with local references opens nothing. -/
theorem Ration.local_covers (loader : Loader) : Ration.Covers ⟨Json.Local, fun _ => 0⟩ loader where
  part := fun _ _ _ isLocal part => isLocal.part part
  entry := fun _ _ entry isLocal read member => isLocal.entry read entry member
  document := by
    intro members reference opened location document isLocal named outside _ _
    obtain ⟨fragment, inside⟩ := isLocal.reference named
    rw [outside] at inside
    cases inside

/-- With local references only, a schema compiles to exactly the type that it has by the lexical
rules, with any loader and any types known beforehand. -/
theorem compile_iff_derives {schema : Json} (isLocal : schema.Local) (loader : Loader)
    (registry : Registry) (ty : Ty) :
    compile loader (.inline schema) registry = .ok ty ↔ Derives (.known registry) schema ty := by
  have decides (height : Nat) := Node.compile_decides loader (Compilation.depth loader schema)
    (.known registry) height schema isLocal (State.start registry) .known
  constructor
  · intro compiled
    exact ((decides 0).gives ty _ (Prod.ext compiled rfl)).1
  · rintro ⟨height, derived⟩
    have ends : (Node.compile loader (Compilation.depth loader schema) schema).EndsFrom
        (State.start registry) := by
      refine Node.compile_ends (Ration.local_covers loader) _ schema 0 isLocal ?_ _
        (State.Within.start _ registry)
      unfold Compilation.depth
      omega
    cases outcome : compile loader (.inline schema) registry with
    | ok other =>
      obtain ⟨derived', -⟩ := (decides height).gives other _ (Prod.ext outcome rfl)
      rw [derived.derives.unique derived']
    | error error =>
      rcases (decides height).refuses error _ (Prod.ext outcome rfl) with rfl | never
      · exact (ends outcome).elim
      · exact (never ty derived.succ).elim

/-- Lists of lists of texts: the inner block has a `text` of its own, which the alias of the outer
block does not mean. -/
def shadowedText : Json :=
  .obj [("definitions", .obj [("text", .obj [("type", .str "string")]),
      ("alias", .obj [("$ref", .str "#/definitions/text")])]),
    ("type", .str "array"),
    ("items", .obj [("definitions", .obj [("text", .obj [("type", .str "number")])]),
      ("type", .str "array"),
      ("items", .obj [("$ref", .str "#/definitions/alias")])])]

theorem Json.Local.single {keyword : String} {text : String}
    (hash : keyword = "$ref" → text.toList.head? = some '#') :
    Json.Local (.obj [(keyword, .str text)]) := by
  have only {other : String} {value : Json}
      (found : Members.get? [(keyword, .str text)] other = some value) :
      other = keyword ∧ value = .str text := by
    obtain ⟨same, rfl⟩ := Prod.mk.inj (List.mem_singleton.mp (Keyed.mem_of_lookup found))
    exact ⟨same, rfl⟩
  refine .object ?_ ?_ ?_
  · intro reference named
    obtain ⟨rfl, same⟩ := only named
    cases same
    exact hash rfl
  · intro path node part
    cases part with
    | alternative found | conjunct found | property found =>
      obtain ⟨-, same⟩ := only found
      cases same
    | items found =>
      obtain ⟨-, rfl⟩ := only found
      exact .other rfl
  · intro keyword _ definitions found
    obtain ⟨-, same⟩ := only found
    cases same

theorem Json.Local.array {definitions : Members} {items : Json}
    (bodies : ∀ definition ∈ definitions, definition.2.Local) (item : items.Local) :
    Json.Local
      (.obj [("definitions", .obj definitions), ("type", .str "array"), ("items", items)]) := by
  refine .object ?_ ?_ ?_
  · intro reference named
    cases named
  · intro path node part
    cases part with
    | alternative found | conjunct found | property found => cases found
    | items found =>
      cases found
      exact item
  · intro keyword listed block found
    rcases List.mem_cons.mp listed with rfl | listed
    · cases found
      exact bodies
    · cases List.mem_singleton.mp listed
      cases found

theorem shadowedText_local : shadowedText.Local := by
  have text : Json.Local (.obj [("type", .str "string")]) := .single (by decide)
  refine .array (List.forall_mem_cons.mpr ⟨.single (by decide), ?_⟩) (.array ?_ ?_)
  · exact List.forall_mem_singleton.mpr (.single (by decide))
  · exact List.forall_mem_singleton.mpr (.single (by decide))
  · exact .single (by decide)

theorem shadowedText_derives :
    Derives (.known .empty) shadowedText (.list (.list (.leaf .string))) := by
  have plain {env : Env} {name : String} {leaf : Leaf}
      (read : Scalar.leaf [("type", .str name)] = .ok leaf)
      (shaped : Node.shape [("type", .str name)] = .scalar) :
      Derives env (.obj [("type", .str name)]) (.leaf leaf) :=
    .of_rule (.node rfl rfl (by rintro _ ⟨⟩) (.scalar ⟨rfl, rfl, rfl⟩ shaped read))
  have text : Reference.Names "#/definitions/text" "text" :=
    Reference.names_iff.mpr ⟨"/definitions/text", rfl, rfl⟩
  have other : Reference.Names "#/definitions/alias" "alias" :=
    Reference.names_iff.mpr ⟨"/definitions/alias", rfl, rfl⟩
  have outer {env : Env} (means : ∃ declared, env.find? "text" =
      some (.body declared (.obj [("type", .str "string")]))) :
      Derives env (.obj [("$ref", .str "#/definitions/text")]) (.leaf .string) := by
    obtain ⟨declared, means⟩ := means
    exact .of_rule (.reference rfl text (.body means (plain rfl rfl)))
  refine .of_rule (.node rfl rfl ?_ (.array ⟨rfl, rfl, rfl⟩ rfl rfl (.of_rule (.node rfl rfl ?_
    (.array ⟨rfl, rfl, rfl⟩ rfl rfl ?_)))))
  · exact List.forall_mem_cons.mpr ⟨⟨_, plain rfl rfl⟩, List.forall_mem_singleton.mpr
      ⟨_, outer ⟨_, rfl⟩⟩⟩
  · exact List.forall_mem_singleton.mpr ⟨_, plain rfl rfl⟩
  · exact .of_rule (.reference rfl other (.body rfl (outer ⟨_, rfl⟩)))

theorem compile_iff_derives_shadowedText :
    shadowedText.Local ∧
      compile Bundle.empty.loader (.inline shadowedText) .empty =
        .ok (.list (.list (.leaf .string))) :=
  ⟨shadowedText_local,
    (compile_iff_derives shadowedText_local _ _ _).mpr shadowedText_derives⟩

end SchemaTypes
