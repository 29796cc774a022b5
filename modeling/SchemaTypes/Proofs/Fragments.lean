import SchemaTypes.Proofs.Budget
import SchemaTypes.Proofs.Counterpart
import SchemaTypes.Proofs.Harvest
import SchemaTypes.Proofs.Lexical
import SchemaTypes.Proofs.Path

/-! References to a definition of another document. The definitions of a document form one more block
inside those that are in effect where the reference stands. A name that the document declares is its
own whatever lies around; any other name is searched for further out. -/
namespace SchemaTypes

namespace Reference

/-- A reference names a definition of another document: the text of a location, a hash, the keyword
of a block and one segment, in which the name is escaped. -/
inductive NamesIn : String → String → String → Prop where
  | intro {href keyword segment : String} : href ≠ "" → '#' ∉ href.toList →
      keyword ∈ Definitions.keywords → '/' ∉ segment.toList →
      NamesIn href (href ++ "#" ++ ("/" ++ keyword ++ "/" ++ segment)) (Pointer.unescape segment)

variable {href fragment : String}

theorem hashless (plain : '#' ∉ href.toList) : ∀ c ∈ href.toList, (c != '#') = true := by
  intro c member
  rw [bne_iff_ne]
  rintro rfl
  exact plain member

theorem split_hash (plain : '#' ∉ href.toList) (fragment : String) :
    split (href ++ "#" ++ fragment) = (href, fragment) := by
  have before := hashless plain
  have text : (href ++ "#" ++ fragment).toList = href.toList ++ '#' :: fragment.toList := by simp
  rw [split, text, List.takeWhile_append_of_pos before, List.dropWhile_append_of_pos before]
  simp

theorem split_plain (plain : '#' ∉ href.toList) : split href = (href, "") := by
  have before := hashless plain
  have text : href.toList = href.toList ++ [] := (List.append_nil _).symm
  rw [split, text, List.takeWhile_append_of_pos before, List.dropWhile_append_of_pos before]
  simp

theorem localFragment?_plain (plain : '#' ∉ href.toList) : localFragment? href = none := by
  cases found : localFragment? href with
  | none => rfl
  | some fragment =>
    rw [localFragment?_eq_some.mp found] at plain
    simp at plain

theorem localFragment?_hash (full : href ≠ "") (plain : '#' ∉ href.toList) (fragment : String) :
    localFragment? (href ++ "#" ++ fragment) = none := by
  cases found : localFragment? (href ++ "#" ++ fragment) with
  | none => rfl
  | some rest =>
    have same := congrArg (fun text => (split text).1) (localFragment?_eq_some.mp found)
    have bare : "#" ++ rest = "" ++ "#" ++ rest := by simp
    rw [split_hash plain, bare, split_hash (by simp)] at same
    exact (full same).elim

theorem NamesIn.parts {reference name : String} (names : NamesIn href reference name) :
    localFragment? reference = none ∧ ∃ keyword segment : String,
      keyword ∈ Definitions.keywords ∧ '/' ∉ segment.toList ∧ name = Pointer.unescape segment ∧
        split reference = (href, "/" ++ keyword ++ "/" ++ segment) := by
  cases names with
  | intro full plain listed closed =>
    exact ⟨localFragment?_hash full plain _, _, _, listed, closed, rfl, split_hash plain _⟩

end Reference

/-! ## Names in a block -/

namespace Definitions

variable {compile : NodeCompiler} {members : Members} {entries : List Entry} {entry : Entry}
  {position : Position} {name reference : String} {state after : State} {slot : Slot} {ty : Ty}

/-- A slot of a fresh block holds the body that counts under its name. -/
theorem slots_lookup (found : (slots position entries).lookup name = some slot) :
    ∃ entry ∈ entries, entry.name = name ∧ slot = declare position entry ∧
      (effective entries).lookup name = some entry.node := by
  obtain ⟨entry, member, named, declared⟩ := mem_slots (Keyed.mem_of_lookup found)
  have aligned : Keyed.Aligned (fun slot node => ∃ place, slot = .pending ⟨node, place⟩)
      (slots position entries) (effective entries) :=
    Keyed.Aligned.ofPairs fun entry _ => ⟨_, rfl⟩
  obtain ⟨node, effective, place, same⟩ := aligned.lookup found
  rw [declared] at same
  cases same
  exact ⟨entry, member, named, declared, effective⟩

theorem slots_lookup_none (undeclared : ∀ entry ∈ entries, entry.name ≠ name) :
    (slots position entries).lookup name = none := by
  cases found : (slots position entries).lookup name with
  | none => rfl
  | some slot =>
    obtain ⟨entry, member, named, -⟩ := slots_lookup found
    exact (undeclared entry member named).elim

/-- With its entries in scope, a node finds a name in its own block if there is an entry of the
name. -/
theorem find?_declaring (state : State) (member : entry ∈ entries) :
    ∃ other ∈ entries, other.name = entry.name ∧
      (effective entries).lookup entry.name = some other.node ∧
      (state.declaring entries).scope.find? entry.name =
        some ⟨state.scope.length, state.blocks, declare state.position other⟩ := by
  have listed : entry.name ∈ Keyed.keys (slots state.position entries) :=
    Keyed.mem_keys_ofPairs (List.mem_map.mpr ⟨_, List.mem_map_of_mem member, rfl⟩)
  obtain ⟨slot, found⟩ := Keyed.exists_lookup listed
  obtain ⟨other, inside, named, rfl, effective⟩ := slots_lookup found
  refine ⟨other, inside, named, effective, ?_⟩
  rw [State.declaring_scope (List.ne_nil_of_mem member)]
  exact Scope.find?_cons_of_lookup found

theorem find?_declaring_none (state : State) (undeclared : ∀ entry ∈ entries, entry.name ≠ name) :
    (state.declaring entries).scope.find? name = state.scope.find? name := by
  cases entries with
  | nil => rfl
  | cons first rest =>
    rw [State.declaring_scope (List.cons_ne_nil first rest)]
    exact Scope.find?_append (List.forall_mem_singleton.mpr (slots_lookup_none undeclared))

/-- A node that ends well has compiled its definitions, and then its body with these in scope. -/
theorem within_ok {α : Type} {a : α} {body : Compile α}
    (ran : within compile members body state = (.ok a, after)) :
    ∃ entries inner, Definitions.entries members = .ok entries ∧
      (do resolveAll compile entries; body : Compile α) (state.declaring entries) =
        (.ok a, inner) ∧
      after = { inner with scope := inner.scope.drop (if entries.isEmpty then 0 else 1) } := by
  cases read : Definitions.entries members with
  | error fault =>
    unfold within at ran
    rw [read] at ran
    cases ran
  | ok entries =>
    cases entries with
    | nil =>
      rw [within_of_nil read] at ran
      exact ⟨[], after, rfl, ran, rfl⟩
    | cons first rest =>
      rw [within_of_cons read] at ran
      obtain ⟨_, _, noted, ran⟩ := Compile.bind_ok ran
      cases noted
      rw [Compile.read_bind] at ran
      obtain ⟨inner, ended, rfl⟩ := Compile.withLayer_ok ran
      exact ⟨first :: rest, inner, rfl, ended, rfl⟩

theorem declaring_journal (state : State) (entries : List Entry) :
    ∃ added, (state.declaring entries).journal = added ++ state.journal := by
  cases entries with
  | nil => exact ⟨[], rfl⟩
  | cons first rest => exact ⟨[.harvesting (first :: rest).length state.position], rfl⟩

theorem added_of_later {events inside noted : List Event} {before middle after : State}
    (added : after.journal = events ++ before.journal)
    (earlier : middle.journal = noted ++ before.journal)
    (later : after.journal = inside ++ middle.journal) : ∀ event ∈ inside, event ∈ events := by
  have split : events = inside ++ noted := by
    apply @List.append_cancel_right _ _ before.journal
    rw [← added, later, earlier, List.append_assoc]
  intro event member
  rw [split]
  exact List.mem_append_left _ member

/-- What a name means behind the definitions of a node: the body that the node declares under the
name, or else what the name means around the node. -/
theorem within_resolve_ok {events : List Event} (restores : compile.Restores)
    (read : Definitions.entries members = .ok entries)
    (ran : within compile members (resolve compile name reference) state = (.ok ty, after))
    (added : after.journal = events ++ state.journal) :
    (∃ entry ∈ entries, entry.name = name ∧ (effective entries).lookup name = some entry.node ∧
      .compiled { state.position with path := state.position.path ++ [entry.keyword, entry.name] }
        entry.node ty ∈ events) ∨
    (∀ entry ∈ entries, entry.name ≠ name) ∧ state.scope.find? name ≠ none ∧
      after.scope.Knows name ty := by
  obtain ⟨_, inner, read', ended, rfl⟩ := within_ok ran
  cases read.symm.trans read'
  have whole : (do resolveAll compile entries; resolve compile name reference : Compile Ty).Restores :=
    (resolveAll_restores restores entries).bind fun _ => resolve_restores restores name reference
  obtain ⟨inside, kept⟩ := whole (state.declaring entries)
  obtain ⟨_, middle, -, resolved⟩ := Compile.bind_ok ended
  obtain ⟨level, block, found⟩ := resolve_ok restores resolved
  rw [ended] at kept
  by_cases declared : ∃ entry ∈ entries, entry.name = name
  · obtain ⟨entry, member, rfl⟩ := declared
    obtain ⟨other, member, named, effective, stands⟩ := find?_declaring state member
    obtain ⟨slot, there, moved⟩ := kept.scope.find? stands
    rw [found] at there
    cases there
    -- The slot was new, so that the body was compiled meanwhile.
    cases moved with
    | filled compiled =>
      obtain ⟨noted, same⟩ := declaring_journal state entries
      exact .inl ⟨other, member, named, effective, added_of_later added same kept.journal _ compiled⟩
  · have undeclared : ∀ entry ∈ entries, entry.name ≠ name :=
      fun entry member named => declared ⟨entry, member, named⟩
    have same := find?_declaring_none state undeclared
    refine .inr ⟨undeclared, fun absent => ?_, ?_⟩
    · have missing := kept.scope.find?_none (same.trans absent)
      rw [found] at missing
      cases missing
    · cases entries with
      | nil => exact ⟨level, block, found⟩
      | cons first rest =>
        have settled := kept.scope
        rw [State.declaring_scope (List.cons_ne_nil first rest)] at settled
        obtain ⟨layer, outer, moved, -, same⟩ := List.forall₂_cons_left_iff.mp settled
        have shadowless : ∀ inner ∈ [layer], inner.slots.lookup name = none :=
          List.forall_mem_singleton.mpr (moved.slots.lookup_none (slots_lookup_none undeclared))
        rw [same] at found ⊢
        exact ⟨level, block, (Scope.find?_append shadowless).symm.trans found⟩

/-- Behind the definitions of a node, what fails in any case fails unless a definition does first. -/
theorem within_refused {body : Compile Ty} {error : CompileError} (restores : compile.Restores)
    (refused : ∀ entries events middle, Definitions.entries members = .ok entries →
      State.Kept false events (state.declaring entries) middle → (body middle).1 = .error error) :
    ∃ first, (within compile members body state).1 = .error first ∧
      ((within compile members (pure ()) state).1 = .ok () → first = error) := by
  cases read : Definitions.entries members with
  | error fault =>
    unfold within
    rw [read]
    exact ⟨_, rfl, fun ended => nomatch ended⟩
  | ok entries =>
    rw [within_fst read, within_fst read]
    obtain ⟨events, kept⟩ := resolveAll_restores restores entries (state.declaring entries)
    cases ended : resolveAll compile entries (state.declaring entries) with
    | mk outcome middle =>
      rw [ended] at kept
      cases outcome with
      | error first =>
        rw [Compile.bind_of_error ended, Compile.bind_of_error ended]
        exact ⟨first, rfl, fun same => nomatch same⟩
      | ok =>
        rw [Compile.bind_of_ok ended]
        exact ⟨error, refused entries events middle read kept, fun _ => rfl⟩

end Definitions

/-! ## Definitions of a document -/

def Definitions.ofDocument : Json → List Definitions.Entry
  | .obj members => (Definitions.entries members).toOption.getD []
  | _ => []

theorem Definitions.ofDocument_of_ok {members : Members} {entries : List Definitions.Entry}
    (read : Definitions.entries members = .ok entries) : ofDocument (.obj members) = entries := by
  rw [ofDocument, read]
  rfl

/-- The pointer to a nameless definition leads to an entry, if it leads anywhere. -/
theorem Definitions.Entry.of_at? {members : Members} {entries : List Definitions.Entry}
    {keyword : String} {node : Json} (read : Definitions.entries members = .ok entries)
    (listed : keyword ∈ Definitions.keywords)
    (found : (Json.obj members).at? [keyword, ""] = some node) :
    ⟨keyword, "", node⟩ ∈ entries := by
  rw [Json.at?_cons] at found
  obtain ⟨value, there, found⟩ := Option.bind_eq_some_iff.mp found
  rw [Json.at?_singleton] at found
  cases value with
  | obj definitions =>
    exact Definitions.mem_entries_of_block read listed there (Keyed.mem_of_lookup found)
  | arr items => cases found
  | _ => cases found

namespace Reference

variable {loader : Loader} {compile : NodeCompiler} {members : Members}
  {entries : List Definitions.Entry} {keyword segment reference : String} {state after : State}
  {events : List Event} {ty : Ty}

/-- The fragment of a nameless definition is the pointer to it. -/
theorem text_nameless (listed : keyword ∈ Definitions.keywords) :
    "/" ++ keyword ++ "/" ++ "" = Pointer.text [keyword, ""] := by
  rcases List.mem_cons.mp listed with rfl | listed
  · decide
  · cases List.mem_singleton.mp listed
    decide

theorem document_of_named (full : segment ≠ "") (listed : keyword ∈ Definitions.keywords)
    (closed : '/' ∉ segment.toList) :
    document compile reference ("/" ++ keyword ++ "/" ++ segment) (.obj members) =
      Definitions.within compile members
        (Definitions.resolve compile (Pointer.unescape segment) reference) := by
  have named := definitionName?_eq_some.mpr ⟨keyword, listed, segment, full, closed, rfl, rfl⟩
  have filled : ("/" ++ keyword ++ "/" ++ segment).isEmpty = false := by simp
  simp only [document, filled, named, Bool.false_eq_true, if_false]

theorem document_of_nameless (listed : keyword ∈ Definitions.keywords) :
    document compile reference ("/" ++ keyword ++ "/" ++ "") (.obj members) =
      Definitions.within compile members
        (match (Json.obj members).at? [keyword, ""] with
        | some node => do
          let position ← Compile.read (·.position)
          Compile.within { position with path := [keyword, ""] } (compile node)
        | none => Compile.fail (.unresolvedReference reference)) := by
  have nameless : definitionName? ("/" ++ keyword ++ "/" ++ "") = none := by
    rcases List.mem_cons.mp listed with rfl | listed
    · decide
    · cases List.mem_singleton.mp listed
      decide
  have filled : ("/" ++ keyword ++ "/" ++ "").isEmpty = false := by simp
  have path : Pointer.segments ("/" ++ keyword ++ "/" ++ "") = [keyword, ""] := by
    rw [text_nameless listed, Pointer.segments_text]
  have leads : (Json.obj members).pointer? ("/" ++ keyword ++ "/" ++ "") =
      (Json.obj members).at? [keyword, ""] := by
    rw [text_nameless listed, Json.pointer?_text]
  cases found : (Json.obj members).at? [keyword, ""] with
  | none | some =>
    simp only [document, filled, nameless, leads, found, path, Bool.false_eq_true, if_false]

/-- Only the root of a document has definitions. -/
theorem document_of_other {fragment : String} {document : Json} (filled : fragment.isEmpty = false)
    (other : ∀ members, document ≠ .obj members) :
    Reference.document compile reference fragment document =
      Compile.fail (.unsupportedSchema .documentNotObject) := by
  unfold Reference.document
  rw [filled]
  cases document with
  | obj members => exact (other members rfl).elim
  | _ => rfl

/-- What a definition of another document comes to: one that the document declares, or a definition
of that name around the reference. -/
theorem document_names_ok (restores : compile.Restores) (listed : keyword ∈ Definitions.keywords)
    (closed : '/' ∉ segment.toList) {document : Json} (root : state.position.path = [])
    (ran : Reference.document compile reference ("/" ++ keyword ++ "/" ++ segment) document state =
      (.ok ty, after)) (added : after.journal = events ++ state.journal) :
    (∃ entry ∈ Definitions.ofDocument document, entry.name = Pointer.unescape segment ∧
      (segment ≠ "" → (Definitions.effective (Definitions.ofDocument document)).lookup
        (Pointer.unescape segment) = some entry.node) ∧
      .compiled { state.position with path := [entry.keyword, entry.name] } entry.node ty ∈
        events) ∨
    (∀ entry ∈ Definitions.ofDocument document, entry.name ≠ Pointer.unescape segment) ∧
      state.scope.find? (Pointer.unescape segment) ≠ none ∧
      after.scope.Knows (Pointer.unescape segment) ty := by
  cases document with
  | obj members =>
    have nameless : "" = Pointer.unescape "" := by decide
    by_cases full : segment = ""
    · subst full
      rw [document_of_nameless listed] at ran
      obtain ⟨entries, inner, read, ended, rfl⟩ := Definitions.within_ok ran
      rw [Definitions.ofDocument_of_ok read]
      obtain ⟨_, middle, resolved, ended⟩ := Compile.bind_ok ended
      obtain ⟨earlier, kept⟩ := Definitions.resolveAll_restores restores entries
        (state.declaring entries)
      rw [resolved] at kept
      cases found : (Json.obj members).at? [keyword, ""] with
      | none =>
        rw [found] at ended
        cases ended
      | some node =>
        rw [found] at ended
        dsimp only at ended
        rw [Compile.read_bind] at ended
        obtain ⟨last, compiled, rfl⟩ := Compile.within_ok ended
        obtain ⟨inside, kept', noted⟩ := restores node
          { middle with position := { middle.position with path := [keyword, ""] } }
        rw [compiled] at kept' noted
        obtain ⟨first, same⟩ := Definitions.declaring_journal state entries
        have before : middle.journal = (earlier ++ first) ++ state.journal := by
          rw [kept.journal, same, List.append_assoc]
        have position : middle.position = state.position := by
          rw [kept.position, State.declaring_position]
        refine .inl ⟨_, Definitions.Entry.of_at? read listed found, nameless,
          fun full => (full rfl).elim, ?_⟩
        have member := Definitions.added_of_later added before kept'.journal _ (noted ty rfl)
        rw [position] at member
        exact member
    · rw [document_of_named full listed closed] at ran
      obtain ⟨entries, _, read, -⟩ := Definitions.within_ok ran
      rw [Definitions.ofDocument_of_ok read]
      rcases Definitions.within_resolve_ok restores read ran added with own | outer
      · obtain ⟨entry, member, named, effective, compiled⟩ := own
        rw [root] at compiled
        exact .inl ⟨entry, member, named, fun _ => effective, compiled⟩
      · exact .inr outer
  | _ =>
    rw [document_of_other (by simp) (by simp)] at ran
    cases ran

/-- A definition that neither the document declares nor anything around the reference is refused. -/
theorem document_names_refused (restores : compile.Restores)
    (listed : keyword ∈ Definitions.keywords) (closed : '/' ∉ segment.toList) {document : Json}
    (undeclared : ∀ entry ∈ Definitions.ofDocument document,
      entry.name ≠ Pointer.unescape segment)
    (unknown : state.scope.find? (Pointer.unescape segment) = none) :
    ∃ first, (Reference.document compile reference ("/" ++ keyword ++ "/" ++ segment) document
      state).1 = .error first ∧
      ∀ members, document = .obj members →
        (Definitions.within compile members (pure ()) state).1 = .ok () →
        first = .unresolvedReference reference state.position := by
  cases document with
  | obj members =>
    have nameless : "" = Pointer.unescape "" := by decide
    have refused {body : Compile Ty} (refuses : ∀ entries events middle,
        Definitions.entries members = .ok entries →
        State.Kept false events (state.declaring entries) middle →
        (body middle).1 = .error (.unresolvedReference reference state.position)) :
        ∃ first, (Definitions.within compile members body state).1 = .error first ∧
          ∀ members', Json.obj members = .obj members' →
            (Definitions.within compile members' (pure ()) state).1 = .ok () →
            first = .unresolvedReference reference state.position := by
      obtain ⟨first, ended, harvested⟩ := Definitions.within_refused restores refuses
      refine ⟨first, ended, fun members' same => ?_⟩
      cases same
      exact harvested
    by_cases full : segment = ""
    · subst full
      rw [document_of_nameless listed]
      refine refused fun entries events middle read kept => ?_
      cases found : (Json.obj members).at? [keyword, ""] with
      | none =>
        have position := kept.position.trans State.declaring_position
        rw [← position]
        rfl
      | some node =>
        rw [Definitions.ofDocument_of_ok read] at undeclared
        exact (undeclared _ (Definitions.Entry.of_at? read listed found) nameless).elim
    · rw [document_of_named full listed closed]
      refine refused fun entries events middle read kept => ?_
      rw [Definitions.ofDocument_of_ok read] at undeclared
      have absent := kept.scope.find?_none
        ((Definitions.find?_declaring_none state undeclared).trans unknown)
      rw [Definitions.resolve_of_none absent, kept.position, State.declaring_position]
  | _ =>
    rw [document_of_other (by simp) (by simp)]
    exact ⟨_, rfl, fun _ same => nomatch same⟩

theorem external_names_ok {href name : String} {document : Json} (restores : compile.Restores)
    (names : NamesIn href reference name)
    (loaded : loader.load (Location.resolve href state.position.document) = .ok document)
    (ran : external loader compile reference state = (.ok ty, after))
    (added : after.journal = events ++ state.journal) :
    (∃ entry ∈ Definitions.ofDocument document, entry.name = name ∧
      (name ≠ "" → (Definitions.effective (Definitions.ofDocument document)).lookup name =
        some entry.node) ∧
      .compiled ⟨some (Location.resolve href state.position.document), [entry.keyword, name]⟩
        entry.node ty ∈ events) ∨
    (∀ entry ∈ Definitions.ofDocument document, entry.name ≠ name) ∧
      state.scope.find? name ≠ none ∧ after.scope.Knows name ty := by
  obtain ⟨-, keyword, segment, listed, closed, rfl, parts⟩ := names.parts
  obtain ⟨-, found, inner, loaded', ended, rfl⟩ := external_ok ran
  unfold target at loaded' ended
  rw [parts] at loaded' ended
  cases loaded.symm.trans loaded'
  obtain ⟨inside, kept⟩ := document_restores restores reference
    ("/" ++ keyword ++ "/" ++ segment) document
    (entered loader (Location.resolve href state.position.document) state)
  rw [ended] at kept
  have asked : (entered loader (Location.resolve href state.position.document) state).journal =
      [.opening (Location.resolve href state.position.document) loader.announces] ++
        state.journal := rfl
  have later := Definitions.added_of_later added asked kept.journal
  rcases document_names_ok restores listed closed rfl ended kept.journal with own | outer
  · obtain ⟨entry, member, named, effective, compiled⟩ := own
    refine .inl ⟨entry, member, named, fun full => effective ?_, ?_⟩
    · rintro rfl
      exact full (by decide)
    · rw [← named]
      exact later _ compiled
  · exact .inr outer

theorem external_names_refused {href name : String} {document : Json} (restores : compile.Restores)
    (names : NamesIn href reference name)
    (loaded : loader.load (Location.resolve href state.position.document) = .ok document)
    (undeclared : ∀ entry ∈ Definitions.ofDocument document, entry.name ≠ name)
    (unknown : state.scope.find? name = none) :
    ∃ first, (external loader compile reference state).1 = .error first ∧
      ((Location.resolve href state.position.document).key ∉ state.opened →
        ∀ root, document = .obj root →
        (Definitions.within compile root (pure ())
          (entered loader (Location.resolve href state.position.document) state)).1 = .ok () →
        first = .unresolvedReference reference
          ⟨some (Location.resolve href state.position.document), []⟩) := by
  obtain ⟨-, keyword, segment, listed, closed, rfl, parts⟩ := names.parts
  have place : target reference state = Location.resolve href state.position.document := by
    unfold target
    rw [parts]
  rw [← place] at loaded ⊢
  by_cases cyclic : (target reference state).key ∈ state.opened
  · rw [external_of_open cyclic]
    exact ⟨_, rfl, fun closed => (closed cyclic).elim⟩
  · rw [external_of_loaded cyclic loaded, parts]
    obtain ⟨first, ended, unresolved⟩ := document_names_refused restores listed closed undeclared
      (show (entered loader (target reference state) state).scope.find? _ = none from unknown)
    exact ⟨first, ended, fun _ root same harvested => unresolved root same harvested⟩

end Reference

/-- The state in which the reference of a node is followed. -/
def State.referring (state : State) (node : Json) (reference : String) : State :=
  { state with
    journal := .resolving reference state.position :: .visited state.position node ::
      state.journal }

section Node

variable {loader : Loader} {depth : Nat} {members : Members} {href reference name : String}
  {state : State} {document : Json}

theorem Node.compile_elsewhere (named : members.get? "$ref" = some (.str reference))
    (elsewhere : Reference.localFragment? reference = none) :
    Node.compile loader (depth + 1) (.obj members) state = (do
      let ty ← Reference.external loader (Node.compile loader depth) reference
      Compile.note (.compiled · (.obj members) ty)
      pure ty : Compile Ty) (state.referring (.obj members) reference) := by
  have followed : Node.object loader (Node.compile loader depth) members = (do
      Compile.note (.resolving reference ·)
      Reference.external loader (Node.compile loader depth) reference : Compile Ty) := by
    unfold object
    rw [named]
    dsimp only
    unfold Reference.resolve
    rw [elsewhere]
  refine (Node.step_object loader (Node.compile loader depth) members state).trans ?_
  rw [followed]
  rfl

/-- A reference to a definition of another document, wherever it stands and whatever is known there.
If it has a type, this is the type of the body that the document declares; only for a name that the
document does not declare it can be that of a definition around the reference. Without such a
definition the reference is refused, as unresolved when nothing else is wrong. -/
theorem compile_definition_elsewhere
    (named : members.get? "$ref" = some (.str reference))
    (names : Reference.NamesIn href reference name)
    (loaded : loader.load (Location.resolve href state.position.document) = .ok document) :
    let location := Location.resolve href state.position.document
    let declared := Definitions.ofDocument document
    let ran := Node.compile loader (depth + 1) (.obj members) state
    ∃ events, ran.2.journal = events ++ state.journal ∧
      (∀ ty, ran.1 = .ok ty →
        (∃ entry ∈ declared, entry.name = name ∧
          (name ≠ "" → (Definitions.effective declared).lookup name = some entry.node) ∧
          .compiled ⟨some location, [entry.keyword, name]⟩ entry.node ty ∈ events) ∨
        (∀ entry ∈ declared, entry.name ≠ name) ∧ state.scope.find? name ≠ none ∧
          ran.2.scope.Knows name ty) ∧
      ((∀ entry ∈ declared, entry.name ≠ name) → state.scope.find? name = none →
        (∃ error, ran.1 = .error error) ∧
        (location.key ∉ state.opened → ∀ root, document = .obj root →
          (Definitions.within (Node.compile loader depth) root (pure ()) (Reference.entered loader
            location (state.referring (.obj members) reference))).1 = .ok () →
          ran.1 = .error (.unresolvedReference reference ⟨some location, []⟩))) := by
  intro location declared ran
  have restores := Node.compile_restores loader depth
  have there : loader.load (Location.resolve href
      (state.referring (.obj members) reference).position.document) = .ok document := loaded
  have step : ran = _ := Node.compile_elsewhere named names.parts.1
  obtain ⟨events, kept, -⟩ := Node.compile_restores loader (depth + 1) (.obj members) state
  refine ⟨events, kept.journal, fun ty ended => ?_, fun undeclared unknown => ?_⟩
  · obtain ⟨after, whole⟩ := Compile.ok_of_fst (step ▸ ended)
    obtain ⟨_, middle, followed, noted⟩ := Compile.bind_ok whole
    obtain ⟨inside, kept'⟩ := Reference.external_restores loader restores reference
      (state.referring (.obj members) reference)
    rw [followed] at kept'
    have closed : ran.2 = after := by rw [step, whole]
    cases noted
    have first : (state.referring (.obj members) reference).journal =
        [.resolving reference state.position, .visited state.position (.obj members)] ++
          state.journal := rfl
    have last : ran.2.journal = (.compiled middle.position (.obj members) ty :: inside) ++
        (state.referring (.obj members) reference).journal := by
      rw [closed, kept'.journal]
      rfl
    have later := Definitions.added_of_later kept.journal first last
    rcases Reference.external_names_ok restores names there followed kept'.journal
      with own | outer
    · obtain ⟨entry, member, same, effective, compiled⟩ := own
      exact .inl ⟨entry, member, same, effective, later _ (List.mem_cons_of_mem _ compiled)⟩
    · rw [closed]
      exact .inr outer
  · obtain ⟨first, ended, unresolved⟩ :=
      Reference.external_names_refused restores names there undeclared unknown
    have refused : ran.1 = .error first := by rw [step, Compile.noted_fst, ended]
    refine ⟨⟨first, refused⟩, fun closed root same harvested => ?_⟩
    rw [refused, unresolved closed root same harvested]
    rfl

theorem Except.ok_of_isOk {ε : Type} {outcome : Except ε Unit} (ended : outcome.isOk = true) :
    outcome = .ok () := by
  cases outcome with
  | error error => cases ended
  | ok => rfl

/-- A document with one definition, which has a slash in its name. -/
def textDocument : Json :=
  .obj [("definitions", .obj [("in/out", .obj [("type", .str "string")])])]

theorem ofDocument_textDocument : Definitions.ofDocument textDocument =
    [⟨"definitions", "in/out", .obj [("type", .str "string")]⟩] :=
  Definitions.ofDocument_of_ok
    (@Definitions.entries_of_blocks _ [⟨"definitions", "in/out", _⟩] [] rfl rfl)

/-- A known name is no obstacle for a definition of the same name, and no way out for another. -/
theorem compile_definition_elsewhere_textDocument :
    let loader := Bundle.loader ⟨[("x.json", textDocument)]⟩
    let state := State.start ⟨[("in/out", .leaf .number)]⟩
    ∃ depth,
      (∃ after, Node.compile loader depth (.obj [("$ref", .str "x.json#/definitions/in~1out")])
          state = (.ok (.leaf .string), after) ∧
        .compiled ⟨some (.path "x.json"), ["definitions", "in/out"]⟩
          (.obj [("type", .str "string")]) (.leaf .string) ∈ after.journal) ∧
      (Node.compile loader depth (.obj [("$ref", .str "x.json#/$defs/out")]) state).1 =
        .error (.unresolvedReference "x.json#/$defs/out" ⟨some (.path "x.json"), []⟩) := by
  intro loader state
  have named : Reference.NamesIn "x.json" "x.json#/definitions/in~1out" "in/out" :=
    @Reference.NamesIn.intro _ "definitions" "in~1out" (by decide) (by decide) (by decide)
      (by decide)
  have unnamed : Reference.NamesIn "x.json" "x.json#/$defs/out" "out" :=
    @Reference.NamesIn.intro _ "$defs" "out" (by decide) (by decide) (by decide) (by decide)
  refine ⟨2 + 1, ?_, ?_⟩
  · have told : (Node.compile loader (2 + 1)
        (.obj [("$ref", .str "x.json#/definitions/in~1out")]) state).1 = .ok (.leaf .string) :=
      (Ty.Told.leaf .string).ok (by decide +kernel)
    obtain ⟨events, journal, typed, -⟩ := @compile_definition_elsewhere loader 2
      [("$ref", .str "x.json#/definitions/in~1out")] _ _ _ state textDocument rfl named rfl
    have own := typed _ told
    rw [ofDocument_textDocument] at own
    obtain ⟨after, ran⟩ := Compile.ok_of_fst told
    rw [ran] at journal
    refine ⟨after, ran, ?_⟩
    rcases own with own | outer
    · obtain ⟨entry, member, -, -, compiled⟩ := own
      rw [List.mem_singleton.mp member] at compiled
      rw [journal]
      exact List.mem_append_left _ compiled
    · exact (outer.1 _ (List.mem_singleton.mpr rfl) rfl).elim
  · obtain ⟨events, -, -, refused⟩ := @compile_definition_elsewhere loader 2
      [("$ref", .str "x.json#/$defs/out")] _ _ _ state textDocument rfl unnamed rfl
    rw [ofDocument_textDocument] at refused
    refine (refused (List.forall_mem_singleton.mpr (by decide)) rfl).2 (by decide) _ rfl ?_
    exact Except.ok_of_isOk (by decide +kernel)

/-- A list of what is called `n` in another document, with a definition of that name at hand. -/
def numbersElsewhere : Json :=
  .obj [("definitions", .obj [("n", .obj [("type", .str "number")])]), ("type", .str "array"),
    ("items", .obj [("$ref", .str "x.json#/definitions/n")])]

/-- A document without definitions lends out those around the reference, and known types too. -/
theorem compile_definition_falls_through :
    let loader := Bundle.loader ⟨[("x.json", .obj [])]⟩
    Reference.NamesIn "x.json" "x.json#/definitions/n" "n" ∧
      loader.load (Location.resolve "x.json" none) = .ok (.obj []) ∧
      Definitions.ofDocument (.obj []) = [] ∧
      compile loader (.inline numbersElsewhere) .empty = .ok (.list (.leaf .number)) ∧
      compile loader (.inline (.obj [("$ref", .str "x.json#/definitions/n")]))
        ⟨[("n", .leaf .number)]⟩ = .ok (.leaf .number) := by
  intro loader
  refine ⟨@Reference.NamesIn.intro _ "definitions" "n" (by decide) (by decide) (by decide)
    (by decide), rfl, rfl, ?_, ?_⟩
  · exact (Ty.Told.leaf .number).list.ok (by decide +kernel)
  · exact (Ty.Told.leaf .number).ok (by decide +kernel)

end Node

end SchemaTypes
