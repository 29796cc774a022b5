import SchemaTypes.Proofs.Restoration

/-! What a node without a reference comes to, taken apart: its keywords are looked over, its
definitions come into scope and are compiled, and then its body is. -/
namespace SchemaTypes

variable {loader : Loader} {compile : NodeCompiler} {members : Members} {state : State}
  {entries : List Definitions.Entry}

/-- The entries of a block. -/
def Definitions.listed (keyword : String) (definitions : Members) : List Definitions.Entry :=
  definitions.map fun (name, node) => ⟨keyword, name, node⟩

/-- The state with the entries of the current node in scope; without entries there is no block. -/
def State.declaring (state : State) (entries : List Definitions.Entry) : State :=
  if entries.isEmpty then state
  else State.entering
    { state with journal := .harvesting entries.length state.position :: state.journal }
    (Definitions.slots state.position entries)

@[simp] theorem State.declaring_nil (state : State) : state.declaring [] = state := rfl

@[simp] theorem State.declaring_position : (state.declaring entries).position = state.position := by
  unfold declaring
  split <;> rfl

@[simp] theorem State.declaring_opened : (state.declaring entries).opened = state.opened := by
  unfold declaring
  split <;> rfl

theorem State.declaring_scope (some : entries ≠ []) :
    (state.declaring entries).scope =
      ⟨state.blocks, Definitions.slots state.position entries⟩ :: state.scope := by
  unfold declaring
  rw [if_neg (by simpa using some)]
  rfl

/-- The state in which a node that was taken up is compiled. -/
def State.visiting (state : State) (node : Json) : State :=
  { state with journal := .visited state.position node :: state.journal }

/-- All entries of a node are compiled, and then its body. -/
def Node.harvested (compile : NodeCompiler) (entries : List Definitions.Entry) (members : Members) :
    Compile Ty := do
  Definitions.resolveAll compile entries
  (Node.body members).run compile

theorem Definitions.entries_of_blocks {first second : List Entry}
    (definitions : block members "definitions" = .ok first)
    (defs : block members "$defs" = .ok second) :
    Definitions.entries members = .ok (first ++ second) := by
  simp only [Definitions.entries, keywords, List.mapM_cons, List.mapM_nil, definitions, defs]
  simp [Except.map, bind, Except.bind, pure, Except.pure]

theorem Definitions.entries_of_bare (definitions : members.get? "definitions" = none)
    (defs : members.get? "$defs" = none) : Definitions.entries members = .ok [] :=
  entries_of_blocks (by rw [block, definitions]) (by rw [block, defs])

theorem Definitions.entries_congr {members' : Members}
    (same : ∀ keyword ∈ keywords, members'.get? keyword = members.get? keyword) :
    Definitions.entries members' = Definitions.entries members := by
  have definitions := same "definitions" (by decide)
  have defs := same "$defs" (by decide)
  simp only [Definitions.entries, keywords, List.mapM_cons, List.mapM_nil, block, definitions, defs]

/-- What stands under any other keyword has nothing to do with references and definitions. -/
theorem Definitions.insert_apart {keyword : String} (other : keyword ∉ "$ref" :: keywords)
    (members : Members) (value : Json) :
    Members.get? (Keyed.insert members keyword value) "$ref" = members.get? "$ref" ∧
      Definitions.entries (Keyed.insert members keyword value) = Definitions.entries members := by
  have same : ∀ keyword' ∈ "$ref" :: keywords,
      Members.get? (Keyed.insert members keyword value) keyword' = members.get? keyword' := by
    intro keyword' listed
    refine Keyed.lookup_insert_of_ne ?_ _ _
    rintro rfl
    exact other listed
  exact ⟨same _ List.mem_cons_self,
    Definitions.entries_congr fun keyword' listed => same keyword' (List.mem_cons_of_mem _ listed)⟩

theorem Definitions.within_of_nil {α : Type} {body : Compile α}
    (read : Definitions.entries members = .ok []) : within compile members body = body := by
  unfold within
  rw [read]
  rfl

theorem Definitions.within_of_cons {α : Type} {body : Compile α} {entry : Entry}
    {rest : List Entry} (read : Definitions.entries members = .ok (entry :: rest)) :
    within compile members body = (do
      Compile.note (.harvesting (entry :: rest).length ·)
      let position ← Compile.read (·.position)
      Compile.withLayer (slots position (entry :: rest)) do
        resolveAll compile (entry :: rest)
        body) := by
  unfold within
  rw [read]
  rfl

theorem Definitions.within_fst {α : Type} {body : Compile α}
    (read : Definitions.entries members = .ok entries) :
    (within compile members body state).1 =
      ((do resolveAll compile entries; body : Compile α) (state.declaring entries)).1 := by
  cases entries with
  | nil =>
    rw [within_of_nil read]
    rfl
  | cons entry rest =>
    rw [within_of_cons read]
    rfl

theorem Node.noteIgnored_run (members : Members) (keywords : List String) (state : State) :
    ∃ added, ∀ compile, (noteIgnored members keywords).run compile state =
      (.ok (), { state with journal := added ++ state.journal }) := by
  induction keywords generalizing state with
  | nil => exact ⟨[], fun _ => rfl⟩
  | cons keyword rest ih =>
    unfold noteIgnored
    split
    · obtain ⟨added, ran⟩ :=
        ih { state with journal := .ignored (.keyword keyword) state.position :: state.journal }
      refine ⟨added ++ [.ignored (.keyword keyword) state.position], fun compile => ?_⟩
      rw [List.append_assoc]
      exact ran compile
    · exact ih state

/-- A note behind a computation leaves its outcome alone. -/
theorem Compile.noted_fst {α : Type} {body : Compile α} {event : α → Position → Event} :
    ((do let a ← body; Compile.note (event a); pure a : Compile α) state).1 = (body state).1 := by
  obtain ⟨error, middle, ended, whole⟩ | ⟨a, middle, ended, whole⟩ := Compile.bind_ends body _ state
  · rw [whole, ended]
  · rw [whole, ended]
    rfl

/-- A node is noted, then it is compiled, and its type is noted. -/
theorem Node.step_object (loader : Loader) (compile : NodeCompiler) (members : Members)
    (state : State) : step loader compile (.obj members) state = (do
      let ty ← object loader compile members
      Compile.note (.compiled · (.obj members) ty)
      pure ty : Compile Ty)
    { state with journal := .visited state.position (.obj members) :: state.journal } := rfl

theorem Node.compile_fst_object {depth : Nat} :
    (Node.compile loader (depth + 1) (.obj members) state).1 =
      (object loader (Node.compile loader depth) members
        { state with journal := .visited state.position (.obj members) :: state.journal }).1 :=
  Compile.noted_fst

/-- Nothing but notes comes before the harvest. -/
theorem Node.compile_fst (plain : members.get? "$ref" = none)
    (read : Definitions.entries members = .ok entries) (state : State) :
    ∃ journal, ∀ loader depth, (Node.compile loader (depth + 1) (.obj members) state).1 =
      (Node.harvested (Node.compile loader depth) entries members
        (State.declaring { state with journal } entries)).1 := by
  obtain ⟨added, noted⟩ := Node.noteIgnored_run members ignoredKeywords
    { state with journal := .visited state.position (.obj members) :: state.journal }
  refine ⟨added ++ .visited state.position (.obj members) :: state.journal, fun loader depth => ?_⟩
  rw [Node.compile_fst_object, object, plain]
  dsimp only
  rw [Compile.bind_of_ok (noted _)]
  exact Definitions.within_fst read

/-- Nothing but notes comes before a reference is followed. -/
theorem Node.compile_fst_reference {reference : String}
    (named : members.get? "$ref" = some (.str reference)) (state : State) :
    ∃ journal, ∀ loader depth, (Node.compile loader (depth + 1) (.obj members) state).1 =
      (Reference.resolve loader (Node.compile loader depth) reference { state with journal }).1 := by
  refine ⟨.visited state.position (.obj members) :: state.journal, fun loader depth => ?_⟩
  rw [Node.compile_fst_object, object, named]

end SchemaTypes
