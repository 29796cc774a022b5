import SchemaTypes.Proofs.Reading

/-! What stands beside a reference. A node that refers to something is compiled to what it refers to,
and nothing else in it counts. The field of a property is made of what stands in the property all the
same, beside a reference too: there a constant, a text or a limit changes the record, or breaks it. -/
namespace SchemaTypes

def Members.only (keywords : List String) (members : Members) : Members :=
  members.filter fun member => keywords.contains member.1

/-- Schemas of which one has less beside a reference than the other. The node that refers may be any
number of nodes down; what is around it still finds there what it looks for under `kept`. -/
inductive Json.Bared : (kept : List String) → Json → Json → Prop where
  | same (kept : List String) (node : Json) : Bared kept node node
  | reference {kept : List String} {members : Members} {reference : String} :
      members.get? "$ref" = some (.str reference) →
      Bared kept (.obj members) (.obj (members.only ("$ref" :: kept)))
  | body {kept : List String} {members definitions : Members} {keyword name : String}
      {node node' : Json} :
      keyword ∈ Definitions.keywords → members.get? keyword = some (.obj definitions) →
      definitions.lookup name = some node → Bared [] node node' →
      Bared kept (.obj members)
        (.obj (Keyed.insert members keyword (.obj (Keyed.insert definitions name node'))))
  | items {kept : List String} {members : Members} {node node' : Json} :
      members.get? "items" = some node → Bared [] node node' →
      Bared kept (.obj members) (.obj (Keyed.insert members "items" node'))
  | listed {kept : List String} {members : Members} {keyword : String} {nodes : List Json} {i : Nat}
      {node node' : Json} :
      keyword ∈ Node.combinators → members.get? keyword = some (.arr nodes) →
      nodes[i]? = some node → Bared [] node node' →
      Bared kept (.obj members) (.obj (Keyed.insert members keyword (.arr (nodes.set i node'))))
  /-- A property keeps what its field is made of. -/
  | property {kept : List String} {members properties : Members} {key : String}
      {node node' : Json} :
      members.get? "properties" = some (.obj properties) → properties.lookup key = some node →
      Bared Object.carriedKeywords node node' →
      Bared kept (.obj members)
        (.obj (Keyed.insert members "properties" (.obj (Keyed.insert properties key node'))))
  /-- Somewhere below a keyword that nothing is compiled under. -/
  | aside {kept : List String} {members : Members} {keyword : String} {value value' : Json} :
      keyword ∉ Node.readKeywords → members.get? keyword = some value →
      Bared kept (.obj members) (.obj (Keyed.insert members keyword value'))

/-- One source, with less beside a reference in its schema or in the document at its location. Every
other document stays as it is. -/
inductive Source.Bared (loader loader' : Loader) : Source → Source → Prop where
  | inline {schema schema' : Json} : Json.Bared [] schema schema' → loader' = loader →
      Bared loader loader' (.inline schema) (.inline schema')
  | location {location : Location} {root root' : Json} : loader.load location = .ok root →
      loader'.load location = .ok root' → Json.Bared [] root root' →
      (∀ other, other.key ≠ location.key → loader'.load other = loader.load other) →
      Bared loader loader' (.location location) (.location location)

/-! ## Nodes of which less is left -/

theorem Members.get?_only {keywords : List String} {keyword : String} (listed : keyword ∈ keywords)
    (members : Members) : (members.only keywords).get? keyword = members.get? keyword := by
  unfold only get?
  induction members with
  | nil => rfl
  | cons member rest ih =>
    rw [List.filter_cons, Keyed.lookup_cons]
    split
    · rw [Keyed.lookup_cons, ih]
    · next unlisted =>
      have differ : keyword ≠ member.1 := by
        rintro rfl
        exact unlisted (by simpa using listed)
      rw [ih, if_neg differ]

namespace Json.Bared

variable {kept : List String} {node node' : Json} {members members' : Members}

theorem get? (bared : Bared Object.carriedKeywords node node') {keyword : String}
    (carried : keyword ∈ Object.carriedKeywords) : node'.get? keyword = node.get? keyword := by
  obtain ⟨definitions, combinator, items, properties, read⟩ :=
    Node.fieldKeywords_apart keyword (List.mem_append_left _ carried)
  cases bared with
  | same => rfl
  | reference => exact Members.get?_only (List.mem_cons_of_mem _ carried) _
  | body listed => exact Json.get?_insert_of_ne fun same => definitions (same ▸ listed)
  | items => exact Json.get?_insert_of_ne items
  | listed listed => exact Json.get?_insert_of_ne fun same => combinator (same ▸ listed)
  | property => exact Json.get?_insert_of_ne properties
  | aside unread => exact Json.get?_insert_of_ne fun same => unread (same ▸ read)

def Anywhere (node node' : Json) : Prop := ∃ kept, Bared kept node node'

theorem Anywhere.refl (node : Json) : Anywhere node node := ⟨[], .same [] node⟩

theorem matching_of_part {keyword : String} {value : Json}
    (other : keyword ∉ "$ref" :: Definitions.keywords)
    (body : Node.Alike Anywhere members (Keyed.insert members keyword value)) :
    Node.Matching Anywhere members (Keyed.insert members keyword value) := by
  obtain ⟨reference, entries⟩ := Definitions.insert_apart other members value
  refine ⟨reference, fun _ => body, fun _ => ?_⟩
  rw [entries]
  exact .refl .refl _

theorem matching_of_body {definitions : Members} {keyword name : String}
    (listed : keyword ∈ Definitions.keywords) (held : members.get? keyword = some (.obj definitions))
    (found : definitions.lookup name = some node) (bared : Bared [] node node') :
    Node.Matching Anywhere members
      (Keyed.insert members keyword (.obj (Keyed.insert definitions name node'))) := by
  have same : ∀ keyword' ≠ keyword, Members.get? (Keyed.insert members keyword
      (.obj (Keyed.insert definitions name node'))) keyword' = members.get? keyword' :=
    fun _ differ => Keyed.lookup_insert_of_ne differ _ _
  have unlisted : ∀ keyword' ∉ Definitions.keywords, keyword' ≠ keyword := by
    rintro _ out rfl
    exact out listed
  refine ⟨same _ (unlisted _ (by decide)),
    fun _ => .of_definitions .refl fun _ out => same _ (unlisted _ out), fun _ => ?_⟩
  refine .entries fun keyword' _ => .block ?_ .refl
  by_cases here : keyword' = keyword
  · subst here
    rw [held, show Members.get? (Keyed.insert members keyword' _) keyword' = some _ from
      Keyed.lookup_insert_self _ _ _]
    have aligned : Keyed.Aligned Anywhere definitions (Keyed.insert definitions name node') :=
      Keyed.Aligned.insert_right (List.forall₂_same.mpr fun _ _ => ⟨rfl, .refl _⟩) found
        ⟨[], bared⟩
    refine .some (.nodes aligned.keys_eq ?_)
    exact List.forall₂_map_left_iff.mpr (List.forall₂_map_right_iff.mpr
      (aligned.imp fun _ _ related => related.2))
  · exact Node.alike_option .same (same _ here)

/-- An object whose reference is left refers to the same, and any other says the same. -/
theorem matching_object (bared : Bared kept (.obj members) node') :
    ∃ members', node' = .obj members' ∧ Node.Matching Anywhere members members' := by
  cases bared with
  | same => exact ⟨members, rfl, rfl, fun _ => .of_definitions .refl fun _ _ => rfl,
      fun _ => .refl .refl _⟩
  | reference named =>
    refine ⟨_, rfl, Members.get?_only List.mem_cons_self _, fun plain => ?_, fun plain => ?_⟩
    · cases named.symm.trans plain
    · cases named.symm.trans plain
  | body listed held found inner => exact ⟨_, rfl, matching_of_body listed held found inner⟩
  | items held inner =>
    exact ⟨_, rfl, matching_of_part (by decide) (.of_items .refl held ⟨[], inner⟩)⟩
  | @listed _ _ keyword _ _ _ _ listed held found inner =>
    have others : ∀ keyword ∈ Node.combinators, keyword ∉ "$ref" :: Definitions.keywords := by
      decide
    exact ⟨_, rfl, matching_of_part (others keyword listed)
      (.of_listed .refl listed held found ⟨[], inner⟩)⟩
  | property held found inner =>
    refine ⟨_, rfl, matching_of_part (by decide) (.of_property .refl held found ?_)⟩
    exact ⟨⟨_, inner⟩, fun keyword carried => inner.get? carried⟩
  | @aside _ _ keyword _ _ unread held =>
    have read : ∀ keyword ∈ "$ref" :: Definitions.keywords, keyword ∈ Node.readKeywords := by
      decide
    exact ⟨_, rfl, matching_of_part (fun listed => unread (read keyword listed))
      (.of_aside .refl unread held)⟩

theorem matching : Json.Matching Anywhere where
  reflexive := .refl
  object := fun ⟨_, bared⟩ => bared.matching_object
  other := by
    rintro node node' none ⟨kept, bared⟩
    cases bared with
    | same => exact none
    | _ => cases none

end Json.Bared

/-! ## Compiling what is left -/

variable {loader loader' : Loader}

/-- In a document that is open, less beside a reference makes no difference at any depth, however
often the document is referred to: it is not loaded again. -/
theorem Node.compile_fst_bared {location : Location} {root root' : Json}
    (bared : Json.Bared [] root root') (same : loader.SameApart [location.key] loader')
    (registry : Registry) (depth : Nat) :
    (Node.compile loader depth root (Reference.entered loader location (.start registry))).1 =
      (Node.compile loader' depth root'
        (Reference.entered loader' location (.start registry))).1 := by
  have closed :=
    Compile.Mirrors.congruence Json.Bared.matching (Scope.Agrees.ofRegistry registry) same
  have mirrors : State.Mirrors Json.Bared.Anywhere [location.key] (.ofRegistry registry)
      (.ofRegistry registry) 0 (Reference.entered loader location (.start registry))
      (Reference.entered loader' location (.start registry)) :=
    ⟨rfl, rfl, by simp [Reference.entered], .outer, rfl⟩
  exact (closed.compile depth ⟨[], bared⟩ 0 _ _ mirrors).outcome.symm

/-- What stands beside a reference is ignored, but for what the field of a property is made of: with
less of it a schema has the same type or fails with the same error, with whatever documents and types
there are. -/
theorem compile_bared {source source' : Source} (bared : Source.Bared loader loader' source source')
    (registry : Registry) (outcome : Except CompileError Ty) :
    CompilesTo loader source registry outcome ↔ CompilesTo loader' source' registry outcome := by
  cases bared with
  | inline bared same =>
    subst same
    exact CompilesTo.inline_congr fun depth (_ : depth ≥ 0) =>
      Node.compile_fst_matching Json.Bared.matching ⟨[], bared⟩ _ registry depth
  | @location location root root' loaded loaded' bared others =>
    have same : loader.SameApart [location.key] loader' := fun other apart =>
      others other fun held => apart (List.mem_singleton.mpr held)
    rw [CompilesTo.location_iff loaded, CompilesTo.location_iff loaded']
    simp only [Node.compile_fst_bared bared same]

/-- A schema that names numbers, and has a property that refers to them, among other things. -/
def numberAt (members : Members) : Members :=
  [("definitions", .obj [("n", .obj [("type", .str "number")])]),
    ("properties", .obj [("x", .obj members)])]

def numberField (default : FieldDefault) : Ty :=
  .record ⟨none, none, [⟨"x", .leaf .number, true, default, ⟨none, none, none⟩, none, none⟩]⟩

/-- A reference, with a constant and a bound beside it. -/
def boundedFive : Members :=
  [("minimum", .ofNat 1), ("$ref", .str "#/definitions/n"), ("const", .ofNat 5)]

/-- The constant that is left still makes the default, with the bound gone. -/
theorem compile_bared_boundedFive :
    let loader := Bundle.empty.loader
    let left := boundedFive.only ["$ref", "const"]
    Source.Bared loader loader (.inline (.obj (numberAt boundedFive)))
        (.inline (.obj (numberAt left))) ∧
      ∃ ty, ty.same (numberField (.value (.ofNat 5))) = true ∧
        CompilesTo loader (.inline (.obj (numberAt boundedFive))) .empty (.ok ty) ∧
        CompilesTo loader (.inline (.obj (numberAt left))) .empty (.ok ty) := by
  intro loader left
  have properties : (numberAt boundedFive).get? "properties" =
      some (.obj [("x", .obj boundedFive)]) := rfl
  have property : [("x", Json.obj boundedFive)].lookup "x" = some (.obj boundedFive) := rfl
  have bared : Source.Bared loader loader (.inline (.obj (numberAt boundedFive)))
      (.inline (.obj (numberAt left))) :=
    .inline (.property properties property (.reference rfl)) rfl
  have told : (compile loader (.inline (.obj (numberAt boundedFive))) .empty).toOption.any
      (·.same (numberField (.value (.ofNat 5)))) = true := by decide +kernel
  obtain ⟨ty, ran, five⟩ := exists_ok_of_test told
  have compiled : CompilesTo loader (.inline (.obj (numberAt boundedFive))) .empty (.ok ty) :=
    Bundle.compilesTo_iff.mpr ran
  exact ⟨bared, ty, five, compiled, (compile_bared bared _ _).mp compiled⟩

/-- A constant beside the reference of a property becomes a default, which without it there is
none. -/
theorem compile_reads_beside_reference : ∃ ty ty',
    compile Bundle.empty.loader (.inline (.obj (numberAt boundedFive))) .empty = .ok ty ∧
      compile Bundle.empty.loader (.inline (.obj (numberAt (boundedFive.only ["$ref"])))) .empty =
        .ok ty' ∧
      ty.same (numberField (.value (.ofNat 5))) = true ∧
      ty'.same (numberField .required) = true ∧ ty.same ty' = false := by
  have told : (compile Bundle.empty.loader (.inline (.obj (numberAt boundedFive)))
      .empty).toOption.any (fun ty => (compile Bundle.empty.loader
        (.inline (.obj (numberAt (boundedFive.only ["$ref"])))) .empty).toOption.any fun ty' =>
      ty.same (numberField (.value (.ofNat 5))) && ty'.same (numberField .required) &&
        !ty.same ty') = true := by decide +kernel
  obtain ⟨ty, read, told⟩ := exists_ok_of_test told
  obtain ⟨ty', read', told⟩ := exists_ok_of_test told
  simp only [Bool.and_eq_true, Bool.not_eq_true'] at told
  exact ⟨ty, ty', read, read', told.1.1, told.1.2, told.2⟩

end SchemaTypes
