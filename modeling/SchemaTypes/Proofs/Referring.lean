import SchemaTypes.Proofs.Failing

/-! Errors about references, and where they say that the reference stands. A name that is asked for in
vain is reported at the node that refers to it. But when another document has been opened for the
reference, what its fragment leads to is looked for at the root of that document, and a failure is
reported there. -/
namespace SchemaTypes

variable {documents : Documents} {position : Position} {reference : String}

/-- A document holds a node at a position that refers to something. -/
def Position.Refers (documents : Documents) (position : Position) (reference : String) : Prop :=
  ∃ members : Members, position.Holds documents (.obj members) ∧
    members.get? "$ref" = some (.str reference)

/-- A position is the root of the document that a reference from another position opens, in order to
find a part of it. -/
def Reference.OpensAt (reference : String) (referring root : Position) : Prop :=
  localFragment? reference = none ∧ (split reference).2 ≠ "" ∧
    root = ⟨some (Location.resolve (split reference).1 referring.document), []⟩

/-- An error about a reference comes from a node with this reference, and is reported there or at the
root of the document that the reference opens. -/
def CompileError.Referred (documents : Documents) (error : CompileError) : Prop :=
  ∀ reference position, error.reference? = some (reference, position) →
    ∃ referring, referring.Refers documents reference ∧
      (position = referring ∨ Reference.OpensAt reference referring position)

theorem CompileError.allowsOthers_referred : AllowsOthers (Referred documents) := by
  intro error other reference position about
  rw [other] at about
  cases about

theorem Position.Refers.unresolved (refers : position.Refers documents reference) :
    CompileError.Referred documents (.unresolvedReference reference position) := by
  rintro _ _ ⟨⟩
  exact ⟨position, refers, .inl rfl⟩

theorem Position.Refers.cyclic (refers : position.Refers documents reference) :
    CompileError.Referred documents (.cyclicReference reference position) := by
  rintro _ _ ⟨⟩
  exact ⟨position, refers, .inl rfl⟩

/-- Bodies that wait stand in their places as long as the scope lasts. -/
theorem Slot.placed_lasting (documents : Documents) :
    Scope.Lasting (Scope.Each (Slot.Placed documents)) := by
  intro events before after settled placed
  refine settled.forall_layers (fun left right moved stands name slot found => ?_) placed
  obtain ⟨slot', earlier, step⟩ := moved.slots.flip.lookup found
  cases step with
  | same => exact stands name slot earlier
  | filled => trivial
  | broken => trivial

/-- A compiler that reports references only where there are nodes with them. -/
def NodeCompiler.Refers (documents : Documents) (compile : NodeCompiler) : Prop :=
  ∀ node position, position.Holds documents node →
    (compile node).FailsIn (CompileError.Referred documents) position
      (Scope.Each (Slot.Placed documents))

namespace Definitions

variable {compile : NodeCompiler} {name : String}

/-- A body that waits is compiled in its place. -/
theorem demands_refers (refers : compile.Refers documents) :
    Demands (CompileError.Referred documents) position (Scope.Each (Slot.Placed documents)) compile
      name := by
  intro state _ placed hidden outer layer definition parts _ declared
  rw [parts] at placed
  obtain ⟨-, visible⟩ := Scope.Each.of_append placed
  have waits : definition.position.Holds documents definition.node :=
    visible layer List.mem_cons_self name _ declared
  exact refers definition.node definition.position waits _ rfl (visible.set trivial)

theorem resolve_refers (refers : compile.Refers documents)
    (unresolved : CompileError.Referred documents (.unresolvedReference reference position))
    (cyclic : CompileError.Referred documents (.cyclicReference reference position)) :
    (resolve compile name reference).FailsIn (CompileError.Referred documents) position
      (Scope.Each (Slot.Placed documents)) :=
  resolve_fails (demands_refers refers) (fun _ _ _ => unresolved) fun _ _ _ _ _ => cyclic

theorem within_refers {α : Type} (restores : compile.Restores) (refers : compile.Refers documents)
    (every : documents.Distinct) {members : Members}
    (holds : position.Holds documents (.obj members)) {body : Compile α}
    (inside : body.FailsIn (CompileError.Referred documents) position
      (Scope.Each (Slot.Placed documents))) :
    (within compile members body).FailsIn (CompileError.Referred documents) position
      (Scope.Each (Slot.Placed documents)) := by
  have lasting := Slot.placed_lasting documents
  have lasts (_ : List Entry) : Scope.Lasting (Scope.Each (Slot.Placed documents)) := lasting
  refine within_fails CompileError.allowsOthers_referred restores lasting lasts (fun _ => id) ?_
    (fun _ _ _ _ => demands_refers refers) fun _ _ => inside
  intro entries read _ number scope placed
  exact placed.cons (slots_placed (holds.distinct every) holds read)

end Definitions

namespace Reference

variable {compile : NodeCompiler} {loader : Loader}

/-- What a fragment leads to is looked for at the root of its document, and failures to find it are
reported there. -/
theorem document_refers (restores : compile.Restores) (refers : compile.Refers documents)
    (every : documents.Distinct) {location : Location} {document : Json}
    (found : documents (some location) = some document) {fragment : String}
    (fails : fragment ≠ "" →
      CompileError.Referred documents (.unresolvedReference reference ⟨some location, []⟩) ∧
        CompileError.Referred documents (.cyclicReference reference ⟨some location, []⟩)) :
    (Reference.document compile reference fragment document).FailsIn
      (CompileError.Referred documents) ⟨some location, []⟩
      (Scope.Each (Slot.Placed documents)) := by
  have root : Position.Holds documents ⟨some location, []⟩ document := ⟨document, found, rfl⟩
  unfold Reference.document
  split
  · exact refers document _ root
  · next full =>
    obtain ⟨unresolved, cyclic⟩ := fails (by simpa using full)
    split
    · refine Definitions.within_refers restores refers every root ?_
      split
      · exact Definitions.resolve_refers refers unresolved cyclic
      · split
        · next node leads =>
          refine .read_position (.within (refers node _ ⟨_, found, ?_⟩))
          exact Json.at?_of_pointer? (by simpa using full) leads
        · exact .fail unresolved
    · exact .fail (CompileError.allowsOthers_referred.fault rfl)

variable (every : documents.Distinct) (serves : ∀ location document,
  loader.load location = .ok document → documents (some location) = some document)

include every serves

theorem external_refers (restores : compile.Restores) (refers : compile.Refers documents)
    (here : position.Refers documents reference) (outside : localFragment? reference = none) :
    (external loader compile reference).FailsIn (CompileError.Referred documents) position
      (Scope.Each (Slot.Placed documents)) := by
  rintro state rfl placed
  unfold Compile.FailsFrom
  by_cases cyclic : (target reference state).key ∈ state.opened
  · rw [external_of_open cyclic]
    rintro _ ⟨⟩
    exact here.cyclic
  · cases loaded : loader.load (target reference state) with
    | error error =>
      rw [external_of_failed cyclic loaded]
      rintro _ ⟨⟩
      exact CompileError.allowsOthers_referred _ rfl
    | ok root =>
      have reported (full : (split reference).2 ≠ "") :
          CompileError.Referred documents
              (.unresolvedReference reference ⟨some (target reference state), []⟩) ∧
            CompileError.Referred documents
              (.cyclicReference reference ⟨some (target reference state), []⟩) := by
        have opens : OpensAt reference state.position ⟨some (target reference state), []⟩ :=
          ⟨outside, full, rfl⟩
        constructor
        · rintro _ _ ⟨⟩
          exact ⟨_, here, .inr opens⟩
        · rintro _ _ ⟨⟩
          exact ⟨_, here, .inr opens⟩
      have inside := document_refers restores refers every (serves _ _ loaded) reported
        (entered loader (target reference state) state) rfl placed
      rw [external_of_loaded cyclic loaded]
      exact inside

theorem resolve_refers (restores : compile.Restores) (refers : compile.Refers documents)
    (here : position.Refers documents reference) :
    (resolve loader compile reference).FailsIn (CompileError.Referred documents) position
      (Scope.Each (Slot.Placed documents)) := by
  refine .after_note ?_
  split
  · split
    · exact Definitions.resolve_refers refers here.unresolved here.cyclic
    · exact .fail here.unresolved
  · next outside => exact external_refers every serves restores refers here outside

end Reference

namespace Node

variable {compile : NodeCompiler} {loader : Loader} (every : documents.Distinct)
  (serves : ∀ location document, loader.load location = .ok document →
    documents (some location) = some document)

include every serves

theorem object_refers (restores : compile.Restores) (refers : compile.Refers documents)
    {members : Members} (holds : position.Holds documents (.obj members)) :
    (object loader compile members).FailsIn (CompileError.Referred documents) position
      (Scope.Each (Slot.Placed documents)) := by
  have lasting := Slot.placed_lasting documents
  have others : CompileError.AllowsOthers (CompileError.Referred documents) :=
    CompileError.allowsOthers_referred
  have parts : ∀ path node, Part members path node →
      (compile node).FailsIn (CompileError.Referred documents) (position.below path)
        (Scope.Each (Slot.Placed documents)) :=
    fun path node part => refers node _ (holds.below (part.at? (holds.distinct every)))
  unfold object
  split
  · next reference named =>
    exact Reference.resolve_refers every serves restores refers ⟨members, holds, named⟩
  · exact .fail (others.fault rfl)
  · refine .bind lasting (Plan.run_restores restores _) ?_ fun _ _ => ?_
    · exact Plan.run_fails lasting others restores noteIgnored_visits noteIgnored_noReference parts
    · exact Definitions.within_refers restores refers every holds
        (Plan.run_fails lasting others restores body_visits body_noReference parts)

theorem step_refers (restores : compile.Restores) (refers : compile.Refers documents) :
    NodeCompiler.Refers documents (step loader compile) := by
  intro node position holds
  refine .after_note ?_
  cases node with
  | obj members =>
    refine .bind (Slot.placed_lasting documents) (object_restores loader restores members)
      (object_refers every serves restores refers holds) fun ty _ => ?_
    exact .after_note (.pure ty)
  | _ => exact .fail (CompileError.allowsOthers_referred.fault rfl)

theorem compile_refers (depth : Nat) :
    NodeCompiler.Refers documents (Node.compile loader depth) := by
  induction depth with
  | zero => exact fun _ _ _ => .raise (CompileError.allowsOthers_referred _ rfl)
  | succ depth ih => exact step_refers every serves (compile_restores loader depth) ih

end Node

namespace Compilation

variable {loader : Loader} {source : Source} {registry : Registry}

theorem start_refers (every : (source.documents loader).Distinct) :
    (start loader source).FailsFrom (CompileError.Referred (source.documents loader))
      (State.start registry) := by
  have serves : ∀ location document, loader.load location = .ok document →
      source.documents loader (some location) = some document := by
    intro location document loaded
    simp [Source.documents, loaded, Except.toOption]
  have placed : (State.start registry).scope.Each (Slot.Placed (source.documents loader)) := by
    refine Scope.Each.cons (by simp [Scope.Each]) fun slot member => ?_
    obtain ⟨entry, -, rfl⟩ := List.mem_map.mp member
    trivial
  have others : CompileError.AllowsOthers (CompileError.Referred (source.documents loader)) :=
    CompileError.allowsOthers_referred
  cases source with
  | inline schema => exact Node.compile_refers every serves _ schema _ ⟨schema, rfl, rfl⟩ _ rfl placed
  | location location =>
    have whole : (start loader (.location location)).FailsIn
        (CompileError.Referred (Source.documents loader (.location location))) ⟨none, []⟩
        (Scope.Each (Slot.Placed (Source.documents loader (.location location)))) := by
      refine .bind (Slot.placed_lasting _) (Reference.load_restores loader location)
        (.after_note ?_) ?_
      · split
        · exact .pure _
        · exact .raise (others _ rfl)
      · rintro document ⟨before, after, ran⟩
        refine .opening (.within (Node.compile_refers every serves _ document _ ?_))
        exact ⟨document, serves _ _ (Reference.load_ok ran).1, rfl⟩
    exact whole _ rfl placed

end Compilation

/-- An error about a reference comes from a node with exactly that reference. It is reported at this
node, but for references to parts of other documents: what their fragments do not lead to is reported
at the root of the document that was searched. -/
theorem compile_reports_reference {loader : Loader} {source : Source} {registry : Registry}
    (documents : ∀ location document, loader.load location = .ok document → document.Distinct)
    (distinct : source.Distinct) {error : CompileError}
    (failed : CompilesTo loader source registry (.error error)) {reference : String}
    {position : Position} (about : error.reference? = some (reference, position)) :
    ∃ (referring : Position) (members : Members), referring.Names (source.documents loader) (.obj members) ∧
      members.get? "$ref" = some (.str reference) ∧
      (position = referring ∨ Reference.OpensAt reference referring position) := by
  obtain ⟨-, budget, ran⟩ := failed
  have every : (source.documents (loader.withBudget budget)).Distinct :=
    Compilation.documents_distinct documents distinct
  obtain ⟨referring, ⟨members, holds, named⟩, place⟩ :=
    Compilation.start_refers every error ran reference position about
  exact ⟨referring, members, holds.names, named, place⟩

/-- An object with a property that refers to something. -/
def propertyReferring (reference : String) : Json :=
  .obj [("properties", .obj [("a", .obj [("$ref", .str reference)])])]

theorem propertyReferring_distinct (reference : String) :
    (Source.inline (propertyReferring reference)).Distinct := by
  refine .obj (List.nodup_singleton _) (List.forall_mem_singleton.mpr (.obj ?_ ?_))
  · exact List.nodup_singleton _
  · refine List.forall_mem_singleton.mpr (.obj (List.nodup_singleton _) ?_)
    exact List.forall_mem_singleton.mpr .str

/-- A reference was not resolved, at a position with a certain text. -/
def CompileError.isUnresolved (reference text : String) (external : Bool) :
    Except CompileError Ty → Bool
  | .error (.unresolvedReference found position) =>
    found == reference && position.text == text && position.document.isSome == external
  | _ => false

theorem CompileError.exists_of_isUnresolved {text : String} {external : Bool}
    {outcome : Except CompileError Ty}
    (told : isUnresolved reference text external outcome = true) :
    ∃ position, outcome = .error (.unresolvedReference reference position) ∧
      position.text = text ∧ position.document.isSome = external := by
  unfold isUnresolved at told
  split at told
  · next found position =>
    simp only [Bool.and_eq_true, beq_iff_eq] at told
    obtain ⟨⟨rfl, text⟩, inside⟩ := told
    exact ⟨position, rfl, text, inside⟩
  · cases told

theorem compile_reports_reference_unknownName :
    let loader := Bundle.empty.loader
    let source := Source.inline (propertyReferring "#/definitions/n")
    ∃ position, CompilesTo loader source .empty
        (.error (.unresolvedReference "#/definitions/n" position)) ∧
      position.text = "#/properties/a" ∧
      ∃ (referring : Position) (members : Members),
        referring.Names (source.documents loader) (.obj members) ∧
        members.get? "$ref" = some (.str "#/definitions/n") ∧
        (position = referring ∨ Reference.OpensAt "#/definitions/n" referring position) := by
  intro loader source
  obtain ⟨position, ran, text, -⟩ := CompileError.exists_of_isUnresolved
    (show CompileError.isUnresolved "#/definitions/n" "#/properties/a" false
      (compile loader source .empty) = true by decide +kernel)
  have failed : CompilesTo loader source .empty _ := Bundle.compilesTo_iff.mpr ran
  have nothing : ∀ location document, loader.load location = .ok document →
      document.Distinct := by
    intro location document loaded
    cases (Bundle.load_ok loaded : Bundle.empty.documents.lookup _ = some document)
  exact ⟨position, failed, text,
    compile_reports_reference nothing (propertyReferring_distinct _) failed rfl⟩

/-- A fragment that leads nowhere is reported at the root of the document, which refers to nothing. -/
theorem compile_reports_document_root :
    let loader := Bundle.loader ⟨[("x.json", .obj [])]⟩
    let source := Source.inline (propertyReferring "x.json#/properties/q")
    ∃ position, compile loader source .empty =
        .error (.unresolvedReference "x.json#/properties/q" position) ∧
      position.text = "x.json#" ∧
      ∀ members : Members, position.Names (source.documents loader) (.obj members) →
        members.get? "$ref" ≠ some (.str "x.json#/properties/q") := by
  intro loader source
  obtain ⟨⟨place, path⟩, ran, text, inside⟩ := CompileError.exists_of_isUnresolved
    (show CompileError.isUnresolved "x.json#/properties/q" "x.json#" true
      (compile loader source .empty) = true by decide +kernel)
  refine ⟨_, ran, text, ?_⟩
  rintro members ⟨document, pointer, found, -, -, -, named⟩ referring
  obtain ⟨location, rfl⟩ := Option.isSome_iff_exists.mp inside
  -- The only document there is holds nothing but itself.
  have only : document = .obj [] := by
    cases loaded : loader.load location with
    | error error => simp [Source.documents, loaded, Except.toOption] at found
    | ok value =>
      obtain ⟨-, same⟩ :=
        Prod.mk.inj (List.mem_singleton.mp (Keyed.mem_of_lookup (Bundle.load_ok loaded)))
      simp only [Source.documents, loaded, Except.toOption, Option.some.injEq] at found
      exact found ▸ same
  have empty (value : Json) (segment : String) (part : Json)
      (found : value.child? segment = some part) (whole : value = .obj []) : part = .obj [] := by
    rw [whole] at found
    cases found
  have nothing : Json.obj members = .obj [] := Json.pointer?_keeps empty named only
  cases nothing
  cases referring

end SchemaTypes
