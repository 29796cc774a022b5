import SchemaTypes.Proofs.Reporting

/-! Definitions of one name. A node may hold a definition in either of its two blocks, and references
tell the blocks apart; but both go by their names alone, and of two definitions of one name only the
later is ever compiled or meant. But for that, all definitions of a node are compiled, and a
reference means the definition that it points to. -/
namespace SchemaTypes

variable {loader : Loader} {source : Source} {registry : Registry} {position : Position}

/-- The entries of a node that count are compiled, whether anything refers to them or not: wherever a
compilation that ends well brought definitions into scope, each is noted as compiled at its own place,
to the type that it has inside of its node. -/
theorem compile_compiles_definitions {whole : Ty} {count : Nat}
    (compiled : compile loader source registry = .ok whole)
    (harvested : .harvesting count position ∈ (Compilation.run loader source registry).events) :
    ∃ outer entries, source.Harvests loader outer position entries ∧ entries.length = count ∧
      ∀ entry, Definitions.Counts entries entry → ∃ ty,
        .compiled (position.below [entry.keyword, entry.name]) entry.node ty ∈
            (Compilation.run loader source registry).events ∧
          Denotes loader (Enclosure.site registry (⟨position, entries⟩ :: outer) position)
            entry.node ty := by
  have told := Compilation.run_reports loader source registry _ harvested
  rw [compiled] at told
  exact told.resolve_left (by simp [Compile.isFailure])

def defining (definitions defs rest : Members) : Json :=
  .obj (("definitions", .obj definitions) :: ("$defs", .obj defs) :: rest)

def oneDefinition (name type : String) : Members := [(name, .obj [("type", .str type)])]

/-- Definitions were harvested in a schema given inline. -/
def Event.harvestsAt (count : Nat) (path : List String) : Event → Bool
  | .harvesting found ⟨none, segments⟩ => found == count && segments == path
  | _ => false

theorem Event.eq_of_harvestsAt {event : Event} {count : Nat} {path : List String}
    (told : event.harvestsAt count path = true) : event = .harvesting count ⟨none, path⟩ := by
  unfold harvestsAt at told
  split at told
  · simp only [Bool.and_eq_true, beq_iff_eq] at told
    obtain ⟨rfl, rfl⟩ := told
    rfl
  · cases told

theorem mem_harvesting {events : List Event} {count : Nat} {path : List String}
    (told : events.any (Event.harvestsAt count path) = true) :
    .harvesting count ⟨none, path⟩ ∈ events := by
  obtain ⟨event, member, harvests⟩ := List.any_eq_true.mp told
  rw [Event.eq_of_harvestsAt harvests] at member
  exact member

theorem compile_compiles_definitions_twoBlocks :
    let source := Source.inline (defining (oneDefinition "a" "string") (oneDefinition "b" "number")
      [("type", .str "number")])
    let events := (Compilation.run Bundle.empty.loader source .empty).events
    compile Bundle.empty.loader source .empty = .ok (.leaf .number) ∧
      .harvesting 2 ⟨none, []⟩ ∈ events ∧
      ∃ outer entries, source.Harvests Bundle.empty.loader outer ⟨none, []⟩ entries ∧
        entries.length = 2 ∧ ∀ entry, Definitions.Counts entries entry → ∃ ty,
          .compiled ⟨none, [entry.keyword, entry.name]⟩ entry.node ty ∈ events ∧
            Denotes Bundle.empty.loader
              (Enclosure.site .empty (⟨⟨none, []⟩, entries⟩ :: outer) ⟨none, []⟩) entry.node ty := by
  intro source events
  have compiled : compile Bundle.empty.loader source .empty = .ok (.leaf .number) :=
    (Ty.Told.leaf .number).ok (by decide +kernel)
  have harvested : .harvesting 2 ⟨none, []⟩ ∈ events := mem_harvesting (by decide +kernel)
  exact ⟨compiled, harvested, compile_compiles_definitions compiled harvested⟩

/-- A definition is never compiled, however broken, when `$defs` has one of the same name. -/
theorem compile_overlooks_definition :
    let source := Source.inline (defining (oneDefinition "n" "boolean") (oneDefinition "n" "number")
      [("type", .str "number")])
    let events := (Compilation.run Bundle.empty.loader source .empty).events
    compile Bundle.empty.loader source .empty = .ok (.leaf .number) ∧
      .harvesting 2 ⟨none, []⟩ ∈ events ∧
      (∀ node ty, .compiled ⟨none, ["definitions", "n"]⟩ node ty ∉ events) ∧
      ∀ ty, compile Bundle.empty.loader (.inline (defining (oneDefinition "n" "boolean") []
        [("type", .str "number")])) .empty ≠ .ok ty := by
  intro source events
  refine ⟨(Ty.Told.leaf .number).ok (by decide +kernel), mem_harvesting (by decide +kernel),
    fun node ty member => ?_, fun ty compiled => ?_⟩
  · have elsewhere : events.all (fun
        | .compiled place _ _ => place.path != ["definitions", "n"]
        | _ => true) = true := by decide +kernel
    simpa using List.all_eq_true.mp elsewhere _ member
  · have fails : (compile Bundle.empty.loader (.inline (defining (oneDefinition "n" "boolean") []
        [("type", .str "number")])) .empty).isOk = false := by decide +kernel
    rw [compiled] at fails
    cases fails

/-! ## Local references -/

/-- There is an entry of a name in the block of a keyword. -/
def Enclosure.Declares (enclosure : Enclosure) (keyword name : String) : Prop :=
  ∃ entry ∈ enclosure.entries, entry.keyword = keyword ∧ entry.name = name

theorem Enclosure.Declares.names {enclosure : Enclosure} {keyword name : String}
    (declares : enclosure.Declares keyword name) : enclosure.Names name := by
  obtain ⟨entry, member, -, named⟩ := declares
  exact ⟨entry, member, named⟩

theorem Denotes.outlined {site : Site} {node : Json} {ty : Ty} (denoted : Denotes loader site node ty) :
    Outlined (Denotes loader) (site.outline loader node) ty := by
  obtain ⟨height, derived⟩ := denoted
  cases height with
  | zero => exact derived.elim
  | succ height => exact Outlined.imp derived fun _ _ _ derived => derived.denotes

/-- Where a list is split in two ways, and the second does not come behind the first, the two are the
same or the second comes before. -/
theorem List.split_before {α : Type} {inner outer between rest : List α} {a b : α}
    (parts : inner ++ a :: outer = between ++ b :: rest) (outside : a ∉ between) :
    (between = inner ∧ b = a ∧ rest = outer) ∨ ∃ more, inner = between ++ b :: more := by
  rcases List.append_eq_append_iff.mp parts with ⟨more, rfl, tail⟩ | ⟨more, rfl, tail⟩
  · cases more with
    | nil =>
      obtain ⟨rfl, rfl⟩ := List.cons.inj tail
      exact .inl ⟨by simp, rfl, rfl⟩
    | cons first more =>
      obtain ⟨rfl, -⟩ := List.cons.inj tail
      simp at outside
  · cases more with
    | nil =>
      obtain ⟨rfl, rfl⟩ := List.cons.inj tail
      exact .inl ⟨by simp, rfl, rfl⟩
    | cons first more =>
      obtain ⟨rfl, -⟩ := List.cons.inj tail
      exact .inr ⟨more, rfl⟩

/-- What a reference into a block names can only be what stands behind the block's keyword. -/
theorem Reference.name_under {keyword segment name : String} (listed : keyword ∈ Definitions.keywords)
    (named : definitionName? ("/" ++ keyword ++ "/" ++ segment) = some name) :
    name = Pointer.unescape segment := by
  obtain ⟨other, listed', segment', -, -, same, rfl⟩ := definitionName?_eq_some.mp named
  have plain : ∀ keyword ∈ Definitions.keywords, '/' ∉ keyword.toList := by decide
  have parts : keyword.toList ++ '/' :: segment.toList = other.toList ++ '/' :: segment'.toList := by
    simpa using congrArg String.toList same
  rcases List.split_before parts (plain other listed') with ⟨-, -, rest⟩ | ⟨more, longer⟩
  · rw [String.toList_injective rest]
  · have slash := plain keyword listed
    simp [longer] at slash

/-- A node that refers to a definition has the type of the entry that the name means. -/
theorem Denotes.local_reference {site : Site} {members : Members} {keyword segment : String} {ty : Ty}
    (listed : keyword ∈ Definitions.keywords)
    (reference : members.get? "$ref" = some (.str ("#/" ++ keyword ++ "/" ++ segment)))
    (denoted : Denotes loader site (.obj members) ty) :
    Outlined (Denotes loader) (site.meaning (Pointer.unescape segment)) ty := by
  have outlined := denoted.outlined
  have inside : Reference.localFragment? ("#/" ++ keyword ++ "/" ++ segment) =
      some ("/" ++ keyword ++ "/" ++ segment) :=
    Reference.localFragment?_eq_some.mpr (String.toList_injective (by simp))
  simp only [Site.outline, Site.object, reference, Site.follow, inside] at outlined
  cases named : Reference.definitionName? ("/" ++ keyword ++ "/" ++ segment) with
  | none =>
    rw [named] at outlined
    exact (Outlined.not_none outlined).elim
  | some name =>
    rw [named] at outlined
    rw [← Reference.name_under listed named]
    exact outlined

/-- Inside of enclosures one of which has a definition in a certain block, the innermost such, the
name means that definition, or one of the same name in the other block of that node or of a node
further in. -/
theorem Denotes.of_declared {inner outer : List Enclosure} {enclosure : Enclosure}
    {keyword name : String} {ty : Ty} (declares : enclosure.Declares keyword name)
    (innermost : ∀ closer ∈ inner, ¬closer.Declares keyword name)
    (means : Outlined (Denotes loader)
      ((Enclosure.site registry (inner ++ enclosure :: outer) position).meaning name) ty) :
    (∃ entry ∈ enclosure.entries, entry.keyword = keyword ∧ entry.name = name ∧
        Denotes loader (Enclosure.site registry (enclosure :: outer) enclosure.position)
          entry.node ty) ∨
      ∃ between closest rest entry, inner ++ enclosure :: outer = between ++ closest :: rest ∧
        between <+: inner ∧ entry ∈ closest.entries ∧ entry.keyword ≠ keyword ∧
        entry.name = name ∧
        Denotes loader (Enclosure.site registry (closest :: rest) closest.position)
          entry.node ty := by
  obtain ⟨between, closest, rest, entry, parts, others, counts, named, found⟩ :=
    @Enclosure.find?_blocks registry name (inner ++ enclosure :: outer)
      ⟨enclosure, by simp, declares.names⟩
  have denoted : Denotes loader (Enclosure.site registry (closest :: rest) closest.position)
      entry.node ty := by
    rw [Outlined.meaning_iff] at means
    rcases means with known | ⟨_, _, body, denoted⟩
    · cases found.symm.trans known
    · cases found.symm.trans body
      exact denoted
  have outside : enclosure ∉ between := fun member => others enclosure member declares.names
  have here : closest.Declares entry.keyword name := ⟨entry, counts.mem, rfl, named⟩
  rcases List.split_before parts outside with ⟨rfl, rfl, rfl⟩ | ⟨more, rfl⟩
  · by_cases same : entry.keyword = keyword
    · exact .inl ⟨entry, counts.mem, same, named, denoted⟩
    · exact .inr ⟨between, closest, rest, entry, rfl, List.prefix_rfl, counts.mem, same, named,
        denoted⟩
  · have other : entry.keyword ≠ keyword := by
      rintro rfl
      exact innermost closest (by simp) here
    exact .inr ⟨between, closest, rest, entry, parts, List.prefix_append _ _, counts.mem, other,
      named, denoted⟩

/-- A reference to a definition means what its pointer names, as far as the names of the two blocks
differ: inside of whatever lies around it, if a node has a definition of the name in the block that
the reference names, and none further in has one there, then the type is that of this definition, or
that of one of the same name in the other block of the same node or of one further in. -/
theorem compile_local_reference {members : Members} {keyword segment : String} {ty : Ty}
    (listed : keyword ∈ Definitions.keywords)
    (reference : members.get? "$ref" = some (.str ("#/" ++ keyword ++ "/" ++ segment)))
    (noted : .compiled position (.obj members) ty ∈
      (Compilation.run loader source registry).events) :
    ∃ enclosures, source.Reaches loader enclosures position (.obj members) ∧
      ∀ inner enclosure outer, enclosures = inner ++ enclosure :: outer →
        enclosure.Declares keyword (Pointer.unescape segment) →
        (∀ closer ∈ inner, ¬closer.Declares keyword (Pointer.unescape segment)) →
        (∃ entry ∈ enclosure.entries, entry.keyword = keyword ∧
            entry.name = Pointer.unescape segment ∧
            Denotes loader (Enclosure.site registry (enclosure :: outer) enclosure.position)
              entry.node ty) ∨
          ∃ between closest rest entry, enclosures = between ++ closest :: rest ∧
            between <+: inner ∧ entry ∈ closest.entries ∧ entry.keyword ≠ keyword ∧
            entry.name = Pointer.unescape segment ∧
            Denotes loader (Enclosure.site registry (closest :: rest) closest.position)
              entry.node ty := by
  obtain ⟨enclosures, reaches, denoted⟩ := Compilation.run_reports loader source registry _ noted
  refine ⟨enclosures, reaches, ?_⟩
  rintro inner enclosure outer rfl declares innermost
  exact Denotes.of_declared declares innermost (denoted.local_reference listed reference)

/-- A reference was compiled to a leaf in a schema given inline. -/
def Event.refersTo (path : List String) (reference : String) (leaf : Leaf) : Event → Bool
  | .compiled ⟨none, segments⟩ (.obj [(key, .str target)]) (.leaf found) =>
    segments == path && key == "$ref" && target == reference && found == leaf
  | _ => false

theorem Event.eq_of_refersTo {event : Event} {path : List String} {reference : String} {leaf : Leaf}
    (told : event.refersTo path reference leaf = true) :
    event = .compiled ⟨none, path⟩ (.obj [("$ref", .str reference)]) (.leaf leaf) := by
  unfold refersTo at told
  split at told
  · simp only [Bool.and_eq_true, beq_iff_eq] at told
    obtain ⟨⟨⟨rfl, rfl⟩, rfl⟩, rfl⟩ := told
    rfl
  · cases told

/-- A list of what is defined under `definitions` and a certain name. -/
def listOf (name : String) : Members :=
  [("type", .str "array"), ("items", .obj [("$ref", .str ("#/definitions/" ++ name))])]

theorem compile_local_reference_twoBlocks :
    let source := Source.inline (defining (oneDefinition "n" "string") (oneDefinition "m" "number")
      (listOf "n"))
    let members := [("$ref", Json.str "#/definitions/n")]
    "definitions" ∈ Definitions.keywords ∧
      Members.get? members "$ref" = some (.str ("#/" ++ "definitions" ++ "/" ++ "n")) ∧
      .compiled ⟨none, ["items"]⟩ (.obj members) (.leaf .string) ∈
        (Compilation.run Bundle.empty.loader source .empty).events ∧
      ∃ enclosures, source.Reaches Bundle.empty.loader enclosures ⟨none, ["items"]⟩ (.obj members) ∧
        ∀ inner enclosure outer, enclosures = inner ++ enclosure :: outer →
          enclosure.Declares "definitions" "n" →
          (∀ closer ∈ inner, ¬closer.Declares "definitions" "n") →
          (∃ entry ∈ enclosure.entries, entry.keyword = "definitions" ∧ entry.name = "n" ∧
              Denotes Bundle.empty.loader
                (Enclosure.site .empty (enclosure :: outer) enclosure.position) entry.node
                (.leaf .string)) ∨
            ∃ between closest rest entry, enclosures = between ++ closest :: rest ∧
              between <+: inner ∧ entry ∈ closest.entries ∧ entry.keyword ≠ "definitions" ∧
              entry.name = "n" ∧ Denotes Bundle.empty.loader
                (Enclosure.site .empty (closest :: rest) closest.position) entry.node
                (.leaf .string) := by
  intro source members
  have listed : "definitions" ∈ Definitions.keywords := by decide
  have reference : Members.get? members "$ref" =
      some (.str ("#/" ++ "definitions" ++ "/" ++ "n")) := rfl
  have told : (Compilation.run Bundle.empty.loader source .empty).events.any
      (Event.refersTo ["items"] "#/definitions/n" .string) = true := by decide +kernel
  obtain ⟨event, member, refers⟩ := List.any_eq_true.mp told
  rw [Event.eq_of_refersTo refers] at member
  have means := compile_local_reference listed reference member
  rw [show Pointer.unescape "n" = "n" by decide] at means
  exact ⟨listed, reference, member, means⟩

/-- A definition under `$defs` takes the place of one of its name that a reference points to. -/
theorem compile_reference_mistakes_block :
    let strings := Source.inline (defining (oneDefinition "n" "string") [] (listOf "n"))
    let both := Source.inline (defining (oneDefinition "n" "string") (oneDefinition "n" "number")
      (listOf "n"))
    compile Bundle.empty.loader strings .empty = .ok (.list (.leaf .string)) ∧
      compile Bundle.empty.loader both .empty = .ok (.list (.leaf .number)) :=
  ⟨(Ty.Told.leaf .string).list.ok (by decide +kernel),
    (Ty.Told.leaf .number).list.ok (by decide +kernel)⟩

end SchemaTypes
