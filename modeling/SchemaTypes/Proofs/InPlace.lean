import SchemaTypes.Proofs.Accounts
import SchemaTypes.Proofs.Transparency

/-! A part of a document that a pointer leads to. Compiled on its own, with the definitions of the
document's root in scope, it has the type that it has as a part of the whole document, provided that
no other node around it has definitions. -/
namespace SchemaTypes

variable {loader : Loader} {here : Location} {home : List String → Prop} {n : Nat}
  {members : Members} {entries : List Definitions.Entry} {path : List String} {node : Json}
  {ty ty' : Ty} {scope : Scope} {state after : State} {registry : Registry}

/-! ## Retracing -/

namespace Json.Retraceable

/-- What can be retraced compiles again wherever as much is known and nothing else is open. -/
theorem again (retraceable : node.Retraceable loader here scope ty)
    (document : state.position.document = some here) (opened : state.opened = [here.key])
    (known : scope.Promises state.scope) :
    ∃ depth after, Node.compile loader depth node state = (.ok ty, after) := by
  obtain ⟨depth, before, last, ran, inside, open', promises⟩ := retraceable
  have fewer : ∀ key ∈ state.opened, key ∈ before.opened := by
    intro key member
    rw [opened] at member
    rw [List.mem_singleton.mp member]
    exact open'
  obtain ⟨after, ran', -⟩ := Node.compile_again (fun _ _ => id) ran
    (document.trans inside.symm) fewer (promises.trans known)
  exact ⟨depth, after, ran'⟩

theorem unique (left : node.Retraceable loader here scope ty)
    (right : node.Retraceable loader here scope ty') : ty = ty' := by
  have known : scope.Promises
      ({ State.start .empty with position := ⟨some here, []⟩, opened := [here.key], scope } :
        State).scope := .refl scope
  obtain ⟨depth, after, ran⟩ := left.again rfl rfl known
  obtain ⟨depth', after', ran'⟩ := right.again rfl rfl known
  have deep := Node.compile_at_least ran (Nat.le_max_left depth depth')
  have deep' := Node.compile_at_least ran' (Nat.le_max_right depth depth')
  rw [deep] at deep'
  cases deep'
  rfl

end Json.Retraceable

/-! ## The root -/

/-- No node of a document but its root was taken up, and none was compiled. -/
structure Untouched (here : Location) (events : List Event) : Prop where
  visited : ∀ path node, .visited ⟨some here, path⟩ node ∈ events → path = []
  compiled : ∀ path node ty, .compiled ⟨some here, path⟩ node ty ∉ events

theorem Untouched.cons {events : List Event} {event : Event} (before : Untouched here events)
    (visits : ∀ path node, event = .visited ⟨some here, path⟩ node → path = [])
    (compiles : ∀ path node ty, event ≠ .compiled ⟨some here, path⟩ node ty) :
    Untouched here (event :: events) where
  visited path node visited := by
    rcases List.mem_cons.mp visited with own | old
    · exact visits path node own.symm
    · exact before.visited path node old
  compiled path node ty compiled := by
    rcases List.mem_cons.mp compiled with own | old
    · exact compiles path node ty own.symm
    · exact before.compiled path node ty old

theorem State.Accounts.untouched
    (accounts : State.Accounts loader here (fun _ => False) n state after)
    (before : Untouched here state.journal) : Untouched here after.journal := by
  have compiled : ∀ path node ty, .compiled ⟨some here, path⟩ node ty ∉ after.journal := by
    intro path node ty compiled
    rcases accounts.traced path node ty compiled with old | ⟨stands, -⟩
    · exact before.compiled path node ty old
    · exact stands
  refine ⟨fun path node visited => ?_, compiled⟩
  rcases accounts.closed _ node visited with old | ⟨ty, done⟩
  · exact before.visited path node old
  · exact (compiled path node ty done).elim

theorem Homes.none : Homes fun _ => False := ⟨id, fun stands _ => stands⟩

/-- Where all names are known a document is hosted, whatever may be compiled in it. -/
theorem State.Hosts.of_settled (settled : state.scope.Settled) (opened : here.key ∈ state.opened) :
    State.Hosts here home 0 state where
  opened := opened
  inner := by simp [Scope.Each]
  outer := by
    intro layer member name slot found
    obtain ⟨ty, ready⟩ := settled layer member _ (Keyed.mem_of_lookup found)
    cases ready
    trivial
  settled layer member := settled layer (List.mem_of_mem_drop member)

/-- The paths from the root of a document to what is compiled first: its parts, and the bodies that its
definitions stand for. -/
inductive Node.Starts (here : Location) (members : Members) (entries : List Definitions.Entry) :
    List String → Prop where
  | part {path : List String} {node : Json} : Node.Part members path node →
      Starts here members entries path
  | entry {entry : Definitions.Entry} : entry ∈ entries →
      (Definitions.slots ⟨some here, []⟩ entries).lookup entry.name =
        some (Definitions.declare ⟨some here, []⟩ entry) →
      Starts here members entries [entry.keyword, entry.name]

def Node.Home (here : Location) (members : Members) (entries : List Definitions.Entry)
    (path : List String) : Prop :=
  ∃ first rest, Node.Starts here members entries first ∧ path = first ++ rest

theorem Node.home_homes : Homes (Node.Home here members entries) where
  root := by
    rintro ⟨first, rest, starts, same⟩
    have empty := (List.append_eq_nil_iff.mp same.symm).1
    cases starts with
    | part part => exact part.path_ne_nil empty
    | entry => cases empty
  below := by
    rintro path ⟨first, rest, starts, rfl⟩ segments
    exact ⟨first, rest ++ segments, starts, List.append_assoc _ _ _⟩

theorem Node.Starts.stands (starts : Node.Starts here members entries path) :
    Node.Home here members entries path :=
  ⟨path, [], starts, (List.append_nil path).symm⟩

theorem Node.Home.entry {keyword name : String}
    (stands : Node.Home here members entries [keyword, name])
    (listed : keyword ∈ Definitions.keywords) :
    ∃ entry ∈ entries, entry.keyword = keyword ∧ entry.name = name ∧
      (Definitions.slots ⟨some here, []⟩ entries).lookup name =
        some (Definitions.declare ⟨some here, []⟩ entry) := by
  obtain ⟨first, rest, starts, same⟩ := stands
  cases starts with
  | entry member declared =>
    cases same
    exact ⟨_, member, rfl, rfl, declared⟩
  | part part =>
    have other : ∀ keyword ∈ Definitions.keywords,
        keyword ∉ ["oneOf", "allOf", "properties", "items"] := by decide
    have unlisted := other keyword listed
    cases part <;> cases same <;> exact (unlisted (by decide)).elim

/-- A document is entered at its root, with nothing else open. -/
structure State.Enters (here : Location) (scope : Scope) (state : State) : Prop where
  position : state.position = ⟨some here, []⟩
  opened : state.opened = [here.key]
  scope : state.scope = scope

theorem State.Enters.entered (closed : state.opened = []) (known : state.scope = scope) :
    (Reference.entered loader here state).Enters here scope :=
  ⟨rfl, congrArg (List.cons here.key) closed, known⟩

theorem State.Enters.open (enters : state.Enters here scope) : here.key ∈ state.opened :=
  enters.opened ▸ List.mem_singleton.mpr rfl

/-- Between states with the same names around them, a document is as good as entered before. -/
theorem State.Enters.kept {events : List Event} (enters : state.Enters here scope)
    (settled : scope.Settled) (kept : State.Kept false events state after) :
    after.Enters here scope where
  position := kept.position.trans enters.position
  opened := kept.opened.trans enters.opened
  scope := (Scope.Settles.eq_of_settled kept.scope (enters.scope ▸ settled)).trans enters.scope

/-- A run over the root of a document, taken apart: where its definitions came into scope nothing of
the document but the root had been taken up; they were compiled, and then the body was. -/
structure Node.Harvests (loader : Loader) (here : Location) (scope : Scope) (depth : Nat)
    (members : Members) (entries : List Definitions.Entry) (before middle inner : State)
    (whole : Ty) : Prop where
  read : Definitions.entries members = .ok entries
  settled : scope.Settled
  enters : before.Enters here scope
  untouched : Untouched here before.journal
  resolved : Definitions.resolveAll (Node.compile loader depth) entries (before.declaring entries) =
    (.ok (), middle)
  body : (Node.body members).run (Node.compile loader depth) middle = (.ok whole, inner)

/-- Where the root of a document is a reference nothing else of the document is compiled. -/
theorem Node.object_root {depth : Nat} {whole : Ty}
    (ran : Node.object loader (Node.compile loader depth) members state = (.ok whole, after))
    (settled : scope.Settled) (enters : state.Enters here scope)
    (untouched : Untouched here state.journal) :
    Untouched here after.journal ∨ ∃ entries before middle inner, inner.journal = after.journal ∧
      Node.Harvests loader here scope depth members entries before middle inner whole := by
  have restores := Node.compile_restores loader depth
  have accounts : (Node.compile loader depth).Accounts loader here fun _ => False :=
    Node.compile_accounts Homes.none loader depth
  have hosts : State.Hosts here (fun _ => False) 0 state :=
    .of_settled (enters.scope ▸ settled) enters.open
  cases named : members.get? "$ref" with
  | some reference =>
    cases reference with
    | str reference =>
      simp only [Node.object, named] at ran
      have followed := Reference.resolve_accounts Homes.none restores accounts hosts whole after ran
      exact .inl (followed.untouched untouched)
    | _ =>
      simp only [Node.object, named] at ran
      cases ran
  | none =>
    simp only [Node.object, named] at ran
    obtain ⟨_, before, noted, ran⟩ := Compile.bind_ok ran
    have nothing : (Node.noteIgnored members Node.ignoredKeywords).Visits fun _ _ => False :=
      Node.noteIgnored_visits
    have looked := Plan.run_accounts restores accounts nothing hosts (fun _ _ => False.elim) ()
      before noted
    obtain ⟨events, kept⟩ := Plan.run_restores restores
      (Node.noteIgnored members Node.ignoredKeywords) state
    rw [noted] at kept
    obtain ⟨entries, inner, read, ended, rfl⟩ := Definitions.within_ok ran
    obtain ⟨_, middle, resolved, body⟩ := Compile.bind_ok ended
    exact .inr ⟨entries, before, middle, inner, rfl, read, settled, enters.kept settled kept,
      looked.untouched untouched, resolved, body⟩

/-! ## Below the root -/

/-- The fragment that names a definition is a pointer of two segments. -/
theorem Reference.segments_of_definitionName? {fragment name : String}
    (named : definitionName? fragment = some name) :
    ∃ keyword ∈ Definitions.keywords, Pointer.segments fragment = [keyword, name] := by
  obtain ⟨keyword, listed, segment, -, closed, rfl, rfl⟩ := definitionName?_eq_some.mp named
  have plain : ∀ keyword ∈ Definitions.keywords,
      '/' ∉ keyword.toList ∧ Pointer.unescape keyword = keyword := by decide
  obtain ⟨slashless, same⟩ := plain keyword listed
  refine ⟨keyword, listed, ?_⟩
  rw [Pointer.segments, split_reference slashless closed]
  exact congrArg (fun first => [first, Pointer.unescape segment]) same

namespace Node.Harvests

variable {depth : Nat} {before middle inner : State} {whole : Ty}

/-- When the definitions of the root come into scope, nothing is further inside. -/
theorem hosts
    (harvests : Node.Harvests loader here scope depth members entries before middle inner whole) :
    State.Hosts here (Node.Home here members entries) 0 (before.declaring entries) := by
  obtain ⟨-, settled, enters, -, -, -⟩ := harvests
  have position := enters.position
  have opened := enters.open
  rw [← enters.scope] at settled
  cases entries with
  | nil => exact .of_settled settled opened
  | cons first rest =>
    refine ⟨opened, by simp [Scope.Each], ?_, settled⟩
    have outside : State.Hosts here (Node.Home here members (first :: rest)) 0 before :=
      .of_settled settled opened
    refine List.forall_mem_cons.mpr ⟨fun name slot found => ?_, outside.outer.waits ?_⟩
    · obtain ⟨entry, member, rfl, rfl, -⟩ := Definitions.slots_lookup found
      rw [position] at found
      have starts : Node.Starts here members (first :: rest) [entry.keyword, entry.name] :=
        .entry member found
      rw [position]
      exact fun _ => ⟨starts.stands, fun positive => (Nat.lt_irrefl 0 positive).elim⟩
    · exact fun _ fits => fits.mono fun _ => List.mem_cons_of_mem _

theorem accounts
    (harvests : Node.Harvests loader here scope depth members entries before middle inner whole) :
    State.Accounts loader here (Node.Home here members entries) 0 (before.declaring entries) inner ∧
      middle.scope.Settled ∧ inner.scope = middle.scope ∧
      ∀ event ∈ middle.journal, event ∈ inner.journal := by
  have hosts := harvests.hosts
  obtain ⟨-, settled, enters, -, resolved, body⟩ := harvests
  have position := enters.position
  rw [← enters.scope] at settled
  have restores := Node.compile_restores loader depth
  have accounts : (Node.compile loader depth).Accounts loader here (Node.Home here members entries) :=
    Node.compile_accounts Node.home_homes loader depth
  have first := Definitions.resolveAll_accounts restores accounts entries hosts () middle resolved
  obtain ⟨events, kept⟩ :=
    Definitions.resolveAll_restores restores entries (before.declaring entries)
  rw [resolved] at kept
  have second := Plan.run_accounts restores accounts Node.body_visits (hosts.restored kept)
    (fun path node part => ?_) whole inner body
  · obtain ⟨later, kept'⟩ := Plan.run_restores restores (Node.body members) middle
    rw [body] at kept'
    have known := Definitions.resolveAll_settled restores settled resolved
    exact ⟨first.trans second, known, Scope.Settles.eq_of_settled kept'.scope known, second.journal⟩
  · intro _
    rw [kept.position, State.declaring_position, position]
    exact ⟨(Node.Starts.part part).stands, fun positive => (Nat.lt_irrefl 0 positive).elim⟩

theorem untouched_declaring
    (harvests : Node.Harvests loader here scope depth members entries before middle inner whole) :
    Untouched here (before.declaring entries).journal := by
  cases entries with
  | nil => exact harvests.untouched
  | cons first rest => exact harvests.untouched.cons (by simp) (by simp)

/-- A node below the root that was taken up was compiled, from a state that can be had again unless
something encloses the node. -/
theorem traced
    (harvests : Node.Harvests loader here scope depth members entries before middle inner whole)
    (visited : .visited ⟨some here, path⟩ node ∈ inner.journal) (below : path ≠ [])
    (free : ¬Position.Enclosed inner.journal ⟨some here, path⟩) :
    Node.Home here members entries path ∧
      (∃ ty, .compiled ⟨some here, path⟩ node ty ∈ inner.journal) ∧
      ∀ ty, .compiled ⟨some here, path⟩ node ty ∈ inner.journal →
        node.Retraceable loader here middle.scope ty := by
  obtain ⟨accounts, -, known, -⟩ := harvests.accounts
  have untouched := harvests.untouched_declaring
  have traced (ty : Ty) (compiled : .compiled ⟨some here, path⟩ node ty ∈ inner.journal) :
      Node.Home here members entries path ∧ node.Retraceable loader here middle.scope ty := by
    rcases accounts.traced path node ty compiled with earlier | ⟨stands, traced⟩
    · exact (untouched.compiled path node ty earlier).elim
    · rw [List.drop_zero, known] at traced
      exact ⟨stands, traced.resolve_left free⟩
  rcases accounts.closed _ node visited with earlier | ⟨ty, compiled⟩
  · exact (below (untouched.visited path node earlier)).elim
  · exact ⟨(traced ty compiled).1, ⟨ty, compiled⟩, fun ty compiled => (traced ty compiled).2⟩

/-- At a path of two segments below the keyword of a block, the name has its type. -/
theorem named {keyword name : String}
    (harvests : Node.Harvests loader here scope depth members entries before middle inner whole)
    (distinct : (Json.obj members).Distinct) (listed : keyword ∈ Definitions.keywords)
    (stands : Node.Home here members entries [keyword, name])
    (leads : (Json.obj members).at? [keyword, name] = some node) :
    ∃ ty, middle.scope.Knows name ty ∧
      .compiled ⟨some here, [keyword, name]⟩ node ty ∈ inner.journal := by
  obtain ⟨entry, member, rfl, rfl, declared⟩ := stands.entry listed
  obtain ⟨-, complete, -, grown⟩ := harvests.accounts
  obtain ⟨read, -, enters, -, resolved, -⟩ := harvests
  cases (Definitions.Entry.at? distinct read member).symm.trans leads
  have found : (before.declaring entries).scope.find? entry.name = some
      ⟨before.scope.length, before.blocks, Definitions.declare ⟨some here, []⟩ entry⟩ := by
    rw [State.declaring_scope (List.ne_nil_of_mem member), enters.position]
    exact Scope.find?_cons_of_lookup declared
  obtain ⟨events, kept⟩ := Definitions.resolveAll_restores (Node.compile_restores loader depth)
    entries (before.declaring entries)
  rw [resolved] at kept
  -- The slot was new and is settled now, so the body was compiled meanwhile.
  obtain ⟨slot, there, moved⟩ := kept.scope.find? found
  obtain ⟨ty, ready⟩ := complete.find? there
  cases ready
  cases moved with
  | filled compiled =>
    refine ⟨ty, ⟨_, _, there⟩, grown _ ?_⟩
    rw [kept.journal]
    exact List.mem_append_left _ compiled

theorem again {state' : State}
    (harvests : Node.Harvests loader here scope depth members entries before middle inner whole)
    (enters : state'.Enters here scope) :
    ∃ middle', middle.scope.Promises middle'.scope ∧ middle'.position.document = some here ∧
      middle'.opened = [here.key] ∧
      ∀ extra, Definitions.resolveAll (Node.compile loader (depth + extra)) entries
        (state'.declaring entries) = (.ok (), middle') := by
  obtain ⟨-, settled, entered, -, resolved, -⟩ := harvests
  obtain ⟨middle', promises, ran⟩ := Definitions.resolveAll_again resolved
    (entered.scope ▸ settled) state' (enters.scope.trans entered.scope.symm)
    (by rw [enters.position, entered.position]) (by rw [enters.opened, entered.opened]; simp)
  obtain ⟨events, kept⟩ := Definitions.resolveAll_restores (Node.compile_restores loader (depth + 0))
    entries (state'.declaring entries)
  rw [ran 0] at kept
  refine ⟨middle', promises, ?_, ?_, ran⟩
  · rw [kept.position, State.declaring_position, enters.position]
  · rw [kept.opened, State.declaring_opened, enters.opened]

/-- A pointer to a node below the root that can be retraced gives the node's type. -/
theorem document {state' : State} {pointer : String} {ty : Ty}
    (harvests : Node.Harvests loader here scope depth members entries before middle inner whole)
    (enters : state'.Enters here scope) (below : pointer ≠ "")
    (leads : (Json.obj members).pointer? pointer = some node)
    (retraceable : node.Retraceable loader here middle.scope ty)
    (named : ∀ keyword ∈ Definitions.keywords, ∀ name, Pointer.segments pointer = [keyword, name] →
      middle.scope.Knows name ty) (reference : String) :
    ∃ depth', (Reference.document (Node.compile loader depth') reference pointer (.obj members)
      state').1 = .ok ty := by
  obtain ⟨middle', promises, document, opened, resolved⟩ := harvests.again enters
  have filled : pointer.isEmpty = false := by simpa using below
  cases definition : Reference.definitionName? pointer with
  | some name =>
    obtain ⟨keyword, listed, segments⟩ := Reference.segments_of_definitionName? definition
    obtain ⟨level, block, found⟩ := promises name ty (named keyword listed name segments)
    refine ⟨depth + 0, ?_⟩
    simp only [Reference.document, filled, definition, Bool.false_eq_true, if_false]
    rw [Definitions.within_fst harvests.read, Compile.bind_of_ok (resolved 0),
      Definitions.resolve_of_some found]
    rfl
  | none =>
    have inside : ({ middle' with position :=
        { middle'.position with path := Pointer.segments pointer } } : State).position.document =
          some here := document
    obtain ⟨more, after, ran⟩ := retraceable.again inside opened promises
    -- The harvest has a depth of its own and so has the node; their sum is enough for both.
    refine ⟨depth + more, ?_⟩
    simp only [Reference.document, filled, definition, leads, Bool.false_eq_true, if_false]
    rw [Definitions.within_fst harvests.read, Compile.bind_of_ok (resolved more), Compile.read_bind]
    exact congrArg Prod.fst (Node.compile_at_least ran (Nat.le_add_left more depth))

end Node.Harvests

/-! ## Every node -/

section

variable {depth : Nat} {whole : Ty} {state' : State} {pointer : String}

/-- The root itself is compiled only when it is done, and only once. -/
theorem Node.object_rootless
    (ran : Node.object loader (Node.compile loader depth) members state = (.ok whole, after))
    (settled : scope.Settled) (enters : state.Enters here scope)
    (untouched : Untouched here state.journal) (node : Json) (ty : Ty) :
    .compiled ⟨some here, []⟩ node ty ∉ after.journal := by
  intro compiled
  rcases Node.object_root ran settled enters untouched with still | further
  · exact still.compiled [] node ty compiled
  · obtain ⟨entries, before, middle, inner, same, harvests⟩ := further
    rw [← same] at compiled
    rcases harvests.accounts.1.traced [] node ty compiled with earlier | ⟨stands, -⟩
    · exact harvests.untouched_declaring.compiled [] node ty earlier
    · exact Node.home_homes.root stands

/-- A node below the root has one type if nothing encloses it, and a pointer to the node gives that
type where the document is entered anew. -/
theorem Node.object_part
    (ran : Node.object loader (Node.compile loader depth) members state = (.ok whole, after))
    (settled : scope.Settled) (enters : state.Enters here scope)
    (untouched : Untouched here state.journal) (distinct : (Json.obj members).Distinct)
    (valid : Pointer.Valid pointer) (below : pointer ≠ "")
    (leads : (Json.obj members).at? (Pointer.segments pointer) = some node)
    (visited : .visited ⟨some here, Pointer.segments pointer⟩ node ∈ after.journal)
    (free : ¬Position.Enclosed after.journal ⟨some here, Pointer.segments pointer⟩)
    (enters' : state'.Enters here scope) (reference : String) :
    ∃ ty, (∀ other, .compiled ⟨some here, Pointer.segments pointer⟩ node other ∈ after.journal ↔
        other = ty) ∧
      ∃ depth', (Reference.document (Node.compile loader depth') reference pointer (.obj members)
        state').1 = .ok ty := by
  have deeper := Pointer.segments_ne_nil valid below
  rcases Node.object_root ran settled enters untouched with still | further
  · exact (deeper (still.visited _ node visited)).elim
  · obtain ⟨entries, before, middle, inner, same, harvests⟩ := further
    rw [← same] at visited free ⊢
    obtain ⟨stands, ⟨ty, compiled⟩, traced⟩ := harvests.traced visited deeper free
    have unique (other : Ty)
        (noted : .compiled ⟨some here, Pointer.segments pointer⟩ node other ∈ inner.journal) :
        other = ty := (traced other noted).unique (traced ty compiled)
    refine ⟨ty, fun other => ⟨unique other, fun same => same ▸ compiled⟩, ?_⟩
    have pointed := (Json.pointer?_of_valid valid (.obj members)).trans leads
    refine harvests.document enters' below pointed (traced ty compiled) ?_ reference
    intro keyword listed name segments
    rw [segments] at stands leads unique
    obtain ⟨other, known, noted⟩ := harvests.named distinct listed stands leads
    exact unique other noted ▸ known

/-- In a run over a document each node that nothing encloses has one type, and a pointer to the node
gives that type where the document is entered anew. -/
theorem Node.compile_part {root : Json}
    (ran : Node.compile loader depth root state = (.ok whole, after))
    (settled : scope.Settled) (enters : state.Enters here scope)
    (untouched : Untouched here state.journal) (distinct : root.Distinct)
    (valid : Pointer.Valid pointer) (leads : root.at? (Pointer.segments pointer) = some node)
    (visited : .visited ⟨some here, Pointer.segments pointer⟩ node ∈ after.journal)
    (free : ¬Position.Enclosed after.journal ⟨some here, Pointer.segments pointer⟩)
    (enters' : state'.Enters here scope) (reference : String) :
    ∃ ty, (∀ other, .compiled ⟨some here, Pointer.segments pointer⟩ node other ∈ after.journal ↔
        other = ty) ∧
      ∃ depth', (Reference.document (Node.compile loader depth') reference pointer root state').1 =
        .ok ty := by
  cases depth with
  | zero => cases ran
  | succ depth =>
  obtain ⟨members, final, rfl, compiled, -, rfl⟩ :=
    Node.step_ok (Node.compile_restores loader depth) ran
  have visiting : (state.visiting (.obj members)).Enters here scope :=
    ⟨enters.position, enters.opened, enters.scope⟩
  have first : Untouched here (state.visiting (.obj members)).journal :=
    untouched.cons (by simp [enters.position]) (by simp)
  rw [enters.position]
  by_cases below : pointer = ""
  · subst below
    cases leads
    refine ⟨whole, fun other => ?_, depth + 1, ?_⟩
    · rw [List.mem_cons]
      have unnoted := Node.object_rootless compiled settled visiting first (.obj members) other
      constructor
      · rintro (own | earlier)
        · cases own
          rfl
        · exact (unnoted earlier).elim
      · rintro rfl
        exact .inl rfl
    · obtain ⟨events, kept, -⟩ := Node.compile_restores loader (depth + 1) (.obj members) state
      rw [ran] at kept
      have left := enters.kept settled kept
      obtain ⟨again, reran, -⟩ := Node.compile_again (fun _ _ => id) ran
        (by rw [enters'.position, enters.position]) (by rw [enters'.opened, enters.opened]; simp)
        (by rw [left.scope, enters'.scope]; exact .refl scope)
      exact congrArg Prod.fst reran
  · have deeper := Pointer.segments_ne_nil valid below
    rw [List.mem_cons, or_iff_right (by simp)] at visited
    obtain ⟨ty, unique, again⟩ := Node.object_part compiled settled visiting first distinct valid
      below leads visited (fun enclosed => free (enclosed.mono fun _ => List.mem_cons_of_mem _))
      enters' reference
    refine ⟨ty, fun other => ?_, again⟩
    rw [List.mem_cons, or_iff_right, unique]
    intro own
    simp only [Event.compiled.injEq, Position.mk.injEq] at own
    exact deeper own.1.2

end

/-! ## Whole documents -/

/-- A compilation that starts at a location enters the document there. -/
theorem Compilation.run_location {location : Location} {root : Json}
    (loaded : loader.load location = .ok root) :
    let ended := Node.compile loader (depth loader root) root
      (Reference.entered loader location (State.start registry))
    run loader (.location location) registry = ⟨ended.1, ended.2.journal.reverse⟩ :=
  congrArg (fun ran => Compilation.mk ran.1 ran.2.journal.reverse) (startWithin_location loaded)

theorem Compilation.loaded_of_ok {location : Location} {ty : Ty}
    (compiled : compile loader (.location location) registry = .ok ty) :
    ∃ root, loader.load location = .ok root := by
  cases loaded : loader.load location with
  | ok root => exact ⟨root, rfl⟩
  | error error =>
    rw [compile, run, start, startWithin_unloaded loaded] at compiled
    cases compiled

theorem Location.resolve_none (reference : String) : resolve reference none = parse reference := by
  unfold resolve
  cases parse reference <;> rfl

section

variable {href fragment reference : String} {root : Json} {depth : Nat} {ty : Ty} {state : State}
  (elsewhere : Reference.localFragment? reference = none)
  (parts : Reference.split reference = (href, fragment)) (unplaced : state.position.document = none)

include parts unplaced

theorem Reference.target_unplaced {node : Json} :
    target reference (state.referring node reference) = Location.parse href := by
  rw [target, parts]
  exact (congrArg _ unplaced).trans (Location.resolve_none href)

include elsewhere

/-- Outside of all documents, a reference to a document comes to what it names in the document, once
that is entered. -/
theorem Node.compile_reference_fst (closed : (Location.parse href).key ∉ state.opened)
    (loaded : loader.load (Location.parse href) = .ok root) :
    (Node.compile loader (depth + 1) (.obj [("$ref", .str reference)]) state).1 =
      (Reference.document (Node.compile loader depth) reference fragment root
        (Reference.entered loader (Location.parse href)
          (state.referring (.obj [("$ref", .str reference)]) reference))).1 := by
  have place : Reference.target reference (state.referring (.obj [("$ref", .str reference)]) reference) =
      Location.parse href := Reference.target_unplaced parts unplaced
  rw [Node.compile_elsewhere rfl elsewhere, Compile.noted_fst,
    Reference.external_of_loaded (by rwa [place]) (place ▸ loaded), parts, place]

theorem Node.loaded_of_compile_reference
    (compiled : (Node.compile loader (depth + 1) (.obj [("$ref", .str reference)]) state).1 = .ok ty) :
    ∃ root, loader.load (Location.parse href) = .ok root := by
  rw [Node.compile_elsewhere rfl elsewhere, Compile.noted_fst] at compiled
  obtain ⟨after, ran⟩ := Compile.ok_of_fst compiled
  obtain ⟨-, root, inner, loaded, -⟩ := Reference.external_ok ran
  rw [Reference.target_unplaced parts unplaced] at loaded
  exact ⟨root, loaded⟩

end

/-- A reference to a part of a document compiles to what the part comes to where the document is
entered. -/
theorem CompilesTo.of_document {href pointer : String} {root : Json} {depth : Nat} {ty : Ty}
    (full : href ≠ "") (plain : '#' ∉ href.toList)
    (loaded : loader.load (Location.parse href) = .ok root)
    (ended : (Reference.document (Node.compile loader depth) (href ++ "#" ++ pointer) pointer root
      (Reference.entered loader (Location.parse href) ((State.start registry).referring
        (.obj [("$ref", .str (href ++ "#" ++ pointer))]) (href ++ "#" ++ pointer)))).1 = .ok ty) :
    CompilesTo loader (.inline (.obj [("$ref", .str (href ++ "#" ++ pointer))])) registry
      (.ok ty) := by
  refine CompilesTo.inline_iff.mpr ⟨by simp, depth + 1, ?_⟩
  rw [Node.compile_reference_fst (Reference.localFragment?_hash full plain pointer)
    (Reference.split_hash plain pointer) rfl List.not_mem_nil loaded]
  exact ended

/-- A node that a document's own compilation takes up has one type there, and a reference to the
document and the pointer of the node compiles to that type, provided that no definitions were met
strictly between the root and the node. -/
theorem compile_part_in_place {bundle : Bundle} {href pointer : String} {whole : Ty}
    (documents : ∀ location document, bundle.loader.load location = .ok document →
      document.Distinct)
    (full : href ≠ "") (plain : '#' ∉ href.toList) (valid : Pointer.Valid pointer)
    (compiled : compile bundle.loader (.ofText href) registry = .ok whole)
    (visited : .visited ⟨some (Location.parse href), Pointer.segments pointer⟩ node ∈
      (Compilation.run bundle.loader (.ofText href) registry).events)
    (free : ¬Position.Enclosed (Compilation.run bundle.loader (.ofText href) registry).events
      ⟨some (Location.parse href), Pointer.segments pointer⟩) :
    ∃ ty, (∀ other, .compiled ⟨some (Location.parse href), Pointer.segments pointer⟩ node other ∈
        (Compilation.run bundle.loader (.ofText href) registry).events ↔ other = ty) ∧
      compile bundle.loader (.inline (.obj [("$ref", .str (href ++ "#" ++ pointer))])) registry =
        .ok ty := by
  obtain ⟨root, loaded⟩ := Compilation.loaded_of_ok compiled
  have every : ((Source.ofText href).documents bundle.loader).Distinct :=
    Compilation.documents_distinct documents trivial
  have placed : (Compilation.start bundle.loader (.ofText href)).StaysFrom
      ((Source.ofText href).documents bundle.loader) (State.start registry) :=
    Compilation.start_stays every
  have run : Compilation.run bundle.loader (.ofText href) registry = _ :=
    Compilation.run_location loaded
  obtain ⟨document, found, leads⟩ := placed.1.journal _ (List.mem_reverse.mp visited)
  have same : (bundle.loader.load (Location.parse href)).toOption = some document := found
  rw [loaded] at same
  cases same
  rw [compile, run] at compiled
  rw [run] at visited free ⊢
  obtain ⟨after, ran⟩ := Compile.ok_of_fst compiled
  rw [ran] at visited free ⊢
  simp only [List.mem_reverse] at visited ⊢
  have untouched : Untouched (Location.parse href)
      (Reference.entered bundle.loader (Location.parse href) (State.start registry)).journal :=
    ⟨by simp [Reference.entered, State.start], by simp [Reference.entered, State.start]⟩
  have apart : ¬Position.Enclosed after.journal
      ⟨some (Location.parse href), Pointer.segments pointer⟩ :=
    fun enclosed => free (enclosed.mono fun _ => List.mem_reverse.mpr)
  have referred : (Reference.entered bundle.loader (Location.parse href)
      ((State.start registry).referring (.obj [("$ref", .str (href ++ "#" ++ pointer))])
        (href ++ "#" ++ pointer))).Enters (Location.parse href) (.ofRegistry registry) :=
    .entered rfl rfl
  obtain ⟨ty, unique, depth, ended⟩ := Node.compile_part ran (Scope.settled_ofRegistry registry)
    (.entered rfl rfl) untouched (documents _ _ loaded) valid leads visited apart referred
    (href ++ "#" ++ pointer)
  have found := CompilesTo.of_document full plain loaded ended
  exact ⟨ty, unique, Bundle.compilesTo_iff.mp found⟩

/-- Lists of numbers, by way of two definitions, one with a slash in its name. -/
def numberRows : Json :=
  .obj [("definitions", .obj [
      ("in/out", .obj [("type", .str "array"), ("items", .obj [("$ref", .str "#/definitions/n")])]),
      ("n", .obj [("type", .str "number")])]),
    ("type", .str "array"), ("items", .obj [("$ref", .str "#/definitions/in~1out")])]

theorem numberRows_distinct : numberRows.Distinct := by
  have reference (text : String) : (Json.obj [("$ref", .str text)]).Distinct :=
    .obj (List.nodup_singleton _) (List.forall_mem_singleton.mpr .str)
  have list (text : String) : (Json.obj [("type", .str "array"),
      ("items", .obj [("$ref", .str text)])]).Distinct :=
    .obj (by simp [Keyed.keys])
      (List.forall_mem_cons.mpr ⟨.str, List.forall_mem_singleton.mpr (reference _)⟩)
  have number : (Json.obj [("type", .str "number")]).Distinct :=
    .obj (by decide) (List.forall_mem_singleton.mpr .str)
  refine .obj (by decide) (List.forall_mem_cons.mpr ⟨.obj (by decide) ?_, ?_⟩)
  · exact List.forall_mem_cons.mpr ⟨list _, List.forall_mem_singleton.mpr number⟩
  · exact List.forall_mem_cons.mpr ⟨.str, List.forall_mem_singleton.mpr (reference _)⟩

/-- An event tells that a reference was taken up at a path of a document. -/
def Event.refersAt (href : String) (path : List String) (reference : String) : Event → Bool
  | .visited ⟨some (.path text), segments⟩ (.obj [(key, .str target)]) =>
    text == href && segments == path && key == "$ref" && target == reference
  | _ => false

theorem Event.eq_of_refersAt {href reference : String} {event : Event}
    (told : event.refersAt href path reference = true) :
    event = .visited ⟨some (.path href), path⟩ (.obj [("$ref", .str reference)]) := by
  unfold refersAt at told
  split at told
  · simp only [Bool.and_eq_true, beq_iff_eq] at told
    obtain ⟨⟨⟨rfl, rfl⟩, rfl⟩, rfl⟩ := told
    rfl
  · cases told

/-- A reference inside of a definition, reached through the definition's escaped name. -/
theorem compile_part_in_place_numberRows :
    let loader := Bundle.loader ⟨[("x.json", numberRows)]⟩
    let position : Position := ⟨some (.path "x.json"), ["definitions", "in/out", "items"]⟩
    let node : Json := .obj [("$ref", .str "#/definitions/n")]
    let events := (Compilation.run loader (.ofText "x.json") .empty).events
    .visited position node ∈ events ∧ .compiled position node (.leaf .number) ∈ events ∧
      compile loader (.inline (.obj [("$ref", .str "x.json#/definitions/in~1out/items")])) .empty =
        .ok (.leaf .number) := by
  intro loader position node events
  have documents : ∀ location document, loader.load location = .ok document →
      document.Distinct := by
    intro location document loaded
    obtain ⟨-, rfl⟩ :=
      Prod.mk.inj (List.mem_singleton.mp (Keyed.mem_of_lookup (Bundle.load_ok loaded)))
    exact numberRows_distinct
  have valid : Pointer.Valid "/definitions/in~1out/items" :=
    Pointer.text_valid ["definitions", "in/out", "items"]
  have told : events.any (Event.refersAt "x.json" position.path "#/definitions/n") = true := by
    decide +kernel
  have visited : .visited position node ∈ events := by
    obtain ⟨event, member, refers⟩ := List.any_eq_true.mp told
    rw [Event.eq_of_refersAt refers] at member
    exact member
  have atRoot : events.all (fun | .harvesting _ place => place.path.isEmpty | _ => true) = true := by
    decide +kernel
  have free : ¬Position.Enclosed events position := by
    rintro ⟨count, outer, inner, some, -, -, met⟩
    have root := List.all_eq_true.mp atRoot _ met
    exact some (List.isEmpty_iff.mp root)
  have compiled : compile loader (.ofText "x.json") .empty = .ok (.list (.list (.leaf .number))) :=
    (Ty.Told.leaf .number).list.list.ok (by decide +kernel)
  have numbers : compile loader (.inline (.obj [("$ref",
      .str "x.json#/definitions/in~1out/items")])) .empty = .ok (.leaf .number) :=
    (Ty.Told.leaf .number).ok (by decide +kernel)
  obtain ⟨ty, unique, pointed⟩ := @compile_part_in_place node .empty
    ⟨[("x.json", numberRows)]⟩ "x.json" "/definitions/in~1out/items" _ documents (by decide)
    (by decide) valid compiled visited free
  cases numbers.symm.trans pointed
  exact ⟨visited, (unique _).mpr rfl, numbers⟩

/-- What is called `n` means numbers inside of the items and texts outside of them. -/
def nestedRows : Json :=
  .obj [("definitions", .obj [("n", .obj [("type", .str "string")])]), ("type", .str "array"),
    ("items", .obj [("definitions", .obj [("n", .obj [("type", .str "number")])]),
      ("type", .str "array"), ("items", .obj [("$ref", .str "#/definitions/n")])])]

/-- A pointer past inner definitions leaves them behind: the rows hold numbers, and the pointer to
what a row holds gives texts. -/
theorem compile_part_leaves_definitions_behind :
    let loader := Bundle.loader ⟨[("x.json", nestedRows)]⟩
    compile loader (.ofText "x.json") .empty = .ok (.list (.list (.leaf .number))) ∧
      .visited ⟨some (.path "x.json"), ["items", "items"]⟩ (.obj [("$ref", .str "#/definitions/n")]) ∈
        (Compilation.run loader (.ofText "x.json") .empty).events ∧
      compile loader (.inline (.obj [("$ref", .str "x.json#/items/items")])) .empty =
        .ok (.leaf .string) := by
  intro loader
  refine ⟨(Ty.Told.leaf .number).list.list.ok (by decide +kernel), ?_,
    (Ty.Told.leaf .string).ok (by decide +kernel)⟩
  have told : (Compilation.run loader (.ofText "x.json") .empty).events.any
      (Event.refersAt "x.json" ["items", "items"] "#/definitions/n") = true := by decide +kernel
  obtain ⟨event, member, refers⟩ := List.any_eq_true.mp told
  rw [Event.eq_of_refersAt refers] at member
  exact member

end SchemaTypes
