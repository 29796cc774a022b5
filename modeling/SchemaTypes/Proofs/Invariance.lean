import SchemaTypes.Proofs.Alike
import SchemaTypes.Proofs.Harvest
import SchemaTypes.Proofs.Site

/-! Schemas that denote the same types. Their parts correspond, and so do the bodies that their names
stand for, in whatever order these are declared. -/
namespace SchemaTypes

namespace Keyed

variable {κ α : Type} [DecidableEq κ] {R : α → α → Prop} {entries entries' pairs pairs' : List (κ × α)}
  {key : κ}

/-- Of several pairs with one key the last counts. -/
theorem lookup_insertAll : (insertAll entries pairs).lookup key =
    ((ofPairs pairs).lookup key).or (entries.lookup key) := by
  induction pairs generalizing entries with
  | nil => rfl
  | cons pair rest ih =>
    have first : (insertAll entries (pair :: rest)).lookup key = ((ofPairs rest).lookup key).or
        ((insert entries pair.1 pair.2).lookup key) := ih
    have alone : (ofPairs (pair :: rest)).lookup key =
        ((ofPairs rest).lookup key).or ((insert [] pair.1 pair.2).lookup key) := ih
    rw [first, alone, Option.or_assoc]
    congr 1
    by_cases same : key = pair.1
    · rw [same, lookup_insert_self, lookup_insert_self]
      rfl
    · rw [lookup_insert_of_ne same, lookup_insert_of_ne same]
      rfl

theorem lookup_ofPairs_append : (ofPairs (entries ++ pairs)).lookup key =
    ((ofPairs pairs).lookup key).or ((ofPairs entries).lookup key) := by
  rw [← lookup_insertAll, ofPairs, insertAll, List.foldl_append]
  rfl

/-- Where keys differ, their order does not count. -/
theorem lookup_perm (distinct : (keys entries).Nodup) (permuted : entries.Perm pairs) :
    pairs.lookup key = entries.lookup key := by
  have distinct' : (keys pairs).Nodup := (permuted.map _).nodup_iff.mp distinct
  cases found : entries.lookup key with
  | some value => exact lookup_of_mem distinct' (permuted.mem_iff.mp (mem_of_lookup found))
  | none =>
    cases found' : pairs.lookup key with
    | none => rfl
    | some value =>
      rw [lookup_of_mem distinct (permuted.mem_iff.mpr (mem_of_lookup found'))] at found
      cases found

/-- Where keys differ, the entries are what is found. -/
theorem forall_mem_iff (distinct : (keys entries).Nodup) (holds : α → Prop) :
    (∀ entry ∈ entries, holds entry.2) ↔
      ∀ key value, entries.lookup key = some value → holds value := by
  constructor
  · intro all key value found
    exact all _ (mem_of_lookup found)
  · intro found entry member
    exact found entry.1 entry.2 (lookup_of_mem distinct member)

theorem Aligned.lookup_rel (aligned : Aligned R entries entries') (key : κ) :
    Option.Rel R (entries.lookup key) (entries'.lookup key) := by
  cases found : entries.lookup key with
  | none =>
    rw [aligned.lookup_none found]
    exact .none
  | some value =>
    obtain ⟨value', found', related⟩ := aligned.lookup found
    rw [found']
    exact .some related

end Keyed

namespace Definitions

/-- Entries that make corresponding bodies stand for each name. -/
structure Corresponds (related : Json → Json → Prop) (entries entries' : List Entry) : Prop where
  empty : entries' = [] ↔ entries = []
  bodies : ∀ name,
    Option.Rel related ((effective entries).lookup name) ((effective entries').lookup name)

/-- Blocks that both cannot be read, or have entries that correspond. -/
inductive Alike (related : Json → Json → Prop) :
    Except Fault (List Entry) → Except Fault (List Entry) → Prop where
  | unread (fault fault' : Fault) : Alike related (.error fault) (.error fault')
  | read {entries entries' : List Entry} :
      Corresponds related entries entries' → Alike related (.ok entries) (.ok entries')

variable {related : Json → Json → Prop} {members members' definitions definitions' : Members}
  {keyword : String}

namespace Corresponds

variable {first first' second second' entries : List Entry}

theorem refl (reflexive : ∀ node, related node node) (entries : List Entry) :
    Corresponds related entries entries where
  empty := Iff.rfl
  bodies _ := Node.alike_option reflexive rfl

theorem append (left : Corresponds related first first')
    (right : Corresponds related second second') :
    Corresponds related (first ++ second) (first' ++ second') where
  empty := by rw [List.append_eq_nil_iff, List.append_eq_nil_iff, left.empty, right.empty]
  bodies name := by
    have one := left.bodies name
    have two := right.bodies name
    unfold effective at one two ⊢
    rw [List.map_append, List.map_append, Keyed.lookup_ofPairs_append,
      Keyed.lookup_ofPairs_append]
    generalize (Keyed.ofPairs (second.map _)).lookup name = held at two ⊢
    generalize (Keyed.ofPairs (second'.map _)).lookup name = held' at two ⊢
    cases two with
    | none => exact one
    | some same => exact .some same

/-- The bodies of one block are the last ones under their names. -/
theorem effective_listed :
    effective (listed keyword definitions) = Keyed.ofPairs definitions := by
  unfold effective listed
  rw [List.map_map]
  exact congrArg Keyed.ofPairs ((List.map_congr_left fun _ _ => rfl).trans (List.map_id _))

theorem of_perm (reflexive : ∀ node, related node node) (keyword : String)
    (distinct : (Keyed.keys definitions).Nodup) (permuted : definitions.Perm definitions') :
    Corresponds related (listed keyword definitions) (listed keyword definitions') where
  empty := by
    simp only [← List.length_eq_zero_iff, listed, List.length_map, permuted.length_eq]
  bodies name := by
    have distinct' : (Keyed.keys definitions').Nodup := (permuted.map _).nodup_iff.mp distinct
    rw [effective_listed, effective_listed, Keyed.ofPairs_of_nodup distinct,
      Keyed.ofPairs_of_nodup distinct']
    exact Node.alike_option reflexive (Keyed.lookup_perm distinct permuted)

theorem of_aligned (keyword : String) (aligned : Keyed.Aligned related definitions definitions') :
    Corresponds related (listed keyword definitions) (listed keyword definitions') where
  empty := by
    simp only [← List.length_eq_zero_iff, listed, List.length_map, aligned.length_eq]
  bodies name := by
    rw [effective_listed, effective_listed]
    exact (Keyed.Aligned.insertAll .nil aligned).lookup_rel name

end Corresponds

namespace Alike

theorem refl (reflexive : ∀ node, related node node) (outcome : Except Fault (List Entry)) :
    Alike related outcome outcome := by
  cases outcome with
  | error fault => exact .unread fault fault
  | ok entries => exact .read (.refl reflexive entries)

/-- The entries of a node correspond when the blocks do. -/
theorem entries (blocks : ∀ keyword ∈ keywords,
    Alike related (block members keyword) (block members' keyword)) :
    Alike related (Definitions.entries members) (Definitions.entries members') := by
  have first := blocks "definitions" (by decide)
  have second := blocks "$defs" (by decide)
  simp only [Definitions.entries, keywords, List.mapM_cons, List.mapM_nil]
  generalize block members "definitions" = one, block members' "definitions" = one' at first
  generalize block members "$defs" = two, block members' "$defs" = two' at second
  cases first with
  | unread fault fault' => exact .unread fault fault'
  | read first =>
    cases second with
    | unread fault fault' => exact .unread fault fault'
    | read second =>
      refine .read ?_
      simpa using first.append second

/-- A block that is replaced corresponds to what was there, and the other block is the same. -/
theorem of_insert (reflexive : ∀ node, related node node)
    (held : members.get? keyword = some (.obj definitions))
    (corresponds :
      Corresponds related (listed keyword definitions) (listed keyword definitions'))
    (keyword' : String) :
    Alike related (block members keyword')
      (block (Keyed.insert members keyword (.obj definitions')) keyword') := by
  by_cases same : keyword' = keyword
  · subst same
    have changed : Members.get? (Keyed.insert members keyword' (.obj definitions')) keyword' =
        some (.obj definitions') := Keyed.lookup_insert_self _ _ _
    unfold block
    rw [held, changed]
    exact .read corresponds
  · have unchanged : Members.get? (Keyed.insert members keyword (.obj definitions')) keyword' =
        members.get? keyword' := Keyed.lookup_insert_of_ne same _ _
    unfold block
    rw [unchanged]
    exact .refl reflexive _

end Alike

end Definitions

/-- Blocks of definitions around corresponding nodes. -/
inductive Blocks.Alike (related : Json → Json → Prop) : Blocks → Blocks → Prop where
  | known (registry : Registry) : Alike related (.known registry) (.known registry)
  | block {document : Option Location} {definitions definitions' : Members}
      {outer outer' : Blocks} :
      (∀ name, Option.Rel related (definitions.lookup name) (definitions'.lookup name)) →
      Alike related outer outer' →
      Alike related (.block document definitions outer) (.block document definitions' outer')

/-- The same place of corresponding schemas. -/
structure Site.Alike (related : Json → Json → Prop) (site site' : Site) : Prop where
  document : site'.document = site.document
  blocks : site.blocks.Alike related site'.blocks

/-- Judgements that agree on corresponding nodes. -/
def Judgement.Agree (related : Json → Json → Prop) (judged judged' : Judgement) : Prop :=
  ∀ site site' node node' ty, Site.Alike related site site' → related node node' →
    (judged site node ty ↔ judged' site' node' ty)

/-- Objects that say the same, but for parts and definitions that correspond. -/
structure Node.Rearranged (related : Json → Json → Prop) (members members' : Members) : Prop where
  reference : members'.get? "$ref" = members.get? "$ref"
  body : Node.Alike related members members'
  definitions :
    Definitions.Alike related (Definitions.entries members) (Definitions.entries members')

/-- A relation between nodes that say the same. -/
structure Json.Correspondence (related : Json → Json → Prop) : Prop where
  reflexive : ∀ node, related node node
  object : ∀ {members node'}, related (.obj members) node' →
    ∃ members', node' = .obj members' ∧ Node.Rearranged related members members'
  other : ∀ {node node'}, node.object? = none → related node node' → node' = node

section Judgements

variable {related : Json → Json → Prop} {judged judged' : Judgement} {site site' : Site}
  {members members' : Members} {ty : Ty}

theorem Site.Alike.inside {entries entries' : List Definitions.Entry}
    (alike : Site.Alike related site site')
    (corresponds : Definitions.Corresponds related entries entries') :
    Site.Alike related (site.inside entries) (site'.inside entries') := by
  have empty : entries'.isEmpty = entries.isEmpty := by
    rw [Bool.eq_iff_iff, List.isEmpty_iff, List.isEmpty_iff, corresponds.empty]
  unfold Site.inside
  rw [empty]
  split
  · exact alike
  · rw [alike.document]
    exact ⟨rfl, .block corresponds.bodies alike.blocks⟩

namespace Outlined

variable (agree : judged.Agree related judged') (alike : Site.Alike related site site')

include agree alike

theorem meaning_congr (name : String) :
    Outlined judged (site.meaning name) ty ↔ Outlined judged' (site'.meaning name) ty := by
  rw [meaning_iff, meaning_iff]
  obtain ⟨-, blocks⟩ := alike
  generalize site.blocks = around, site'.blocks = around' at blocks
  -- Blocks that are alike have the same names, so a name is found at the same distance in both.
  induction blocks with
  | known registry => cases known : registry.get? name <;> simp [Blocks.find?, known]
  | @block document definitions definitions' outer outer' names rest ih =>
    have bodies := names name
    unfold Blocks.find?
    generalize definitions.lookup name = held, definitions'.lookup name = held' at bodies
    cases bodies with
    | none => exact ih
    | @some node node' same =>
      have declared : Site.Alike related ⟨document, .block document definitions outer⟩
          ⟨document, .block document definitions' outer'⟩ := ⟨rfl, .block names rest⟩
      simpa using agree _ _ node node' ty declared same

theorem bodies_congr {entries entries' : List Definitions.Entry}
    (corresponds : Definitions.Corresponds related entries entries') :
    (∀ body ∈ Definitions.effective entries, ∃ ty, judged site body.2 ty) ↔
      ∀ body ∈ Definitions.effective entries', ∃ ty, judged' site' body.2 ty := by
  have distinct (entries : List Definitions.Entry) :
      (Keyed.keys (Definitions.effective entries)).Nodup := Keyed.nodup_ofPairs _
  rw [Keyed.forall_mem_iff (distinct entries) fun node => ∃ ty, judged site node ty,
    Keyed.forall_mem_iff (distinct entries') fun node => ∃ ty, judged' site' node ty]
  refine forall_congr' fun name => ?_
  have bodies := corresponds.bodies name
  generalize (Definitions.effective entries).lookup name = held at bodies ⊢
  generalize (Definitions.effective entries').lookup name = held' at bodies ⊢
  cases bodies with
  | none => simp
  | some same => simpa using exists_congr fun ty => agree _ _ _ _ ty alike same

theorem declaring_congr {next next' : Site → Option Outline}
    (definitions :
      Definitions.Alike related (Definitions.entries members) (Definitions.entries members'))
    (rest : ∀ inner inner', Site.Alike related inner inner' →
      (Outlined judged (next inner) ty ↔ Outlined judged' (next' inner') ty)) :
    Outlined judged (site.declaring members next) ty ↔
      Outlined judged' (site'.declaring members' next') ty := by
  rw [declaring_iff, declaring_iff]
  generalize Definitions.entries members = read, Definitions.entries members' = read' at definitions
  cases definitions with
  | unread => simp
  | read corresponds =>
    have inside := alike.inside corresponds
    simp only [Except.ok.injEq, exists_eq_left']
    exact and_congr (bodies_congr agree inside corresponds) (rest _ _ inside)

theorem plan_congr {plan plan' : Plan Ty} (same : plan.Alike related plan') :
    Outlined judged (some ⟨[], site, plan⟩) ty ↔ Outlined judged' (some ⟨[], site', plan'⟩) ty := by
  rw [some_iff, some_iff, plan_iff, plan_iff]
  exact same.yields fun node node' ty => agree _ _ node node' ty alike

variable (reflexive : ∀ node, related node node)

include reflexive

theorem excerpt_congr (fragment : String) (document : Json) :
    Outlined judged (site.excerpt fragment document) ty ↔
      Outlined judged' (site'.excerpt fragment document) ty := by
  unfold Site.excerpt
  split
  · exact plan_congr agree alike (.visit (reflexive document))
  · split
    · next members =>
      refine declaring_congr agree alike (.refl reflexive _) fun inner inner' alike => ?_
      cases Reference.definitionName? fragment with
      | some name => exact meaning_congr agree alike name
      | none =>
        cases (Json.obj members).pointer? fragment with
        | none => simp
        | some node => exact plan_congr agree alike (.visit (reflexive node))
    · simp

theorem follow_congr (loader : Loader) (reference : String) :
    Outlined judged (site.follow loader reference) ty ↔
      Outlined judged' (site'.follow loader reference) ty := by
  have target : site'.target reference = site.target reference := by
    rw [Site.target, Site.target, alike.document]
  unfold Site.follow
  rw [target]
  cases Reference.localFragment? reference with
  | some fragment =>
    dsimp only
    cases Reference.definitionName? fragment with
    | none => simp
    | some name => exact meaning_congr agree alike name
  | none =>
    dsimp only
    cases loader.load (site.target reference) with
    | error error => simp [Except.toOption]
    | ok document =>
      have opened : Site.Alike related ⟨some (site.target reference), site.blocks⟩
          ⟨some (site.target reference), site'.blocks⟩ := ⟨rfl, alike.blocks⟩
      simp only [Except.toOption, Option.bind_some]
      exact excerpt_congr agree opened reflexive _ document

theorem object_congr (loader : Loader) (same : Node.Rearranged related members members') :
    Outlined judged (site.object loader members) ty ↔
      Outlined judged' (site'.object loader members') ty := by
  unfold Site.object
  rw [same.reference]
  split
  · exact follow_congr agree alike reflexive loader _
  · simp
  · refine declaring_congr agree alike same.definitions fun inner inner' alike => ?_
    exact plan_congr agree alike (same.body.body reflexive)

end Outlined

end Judgements

/-- Corresponding schemas denote the same types. -/
theorem Denotes.congr {related : Json → Json → Prop} (correspondence : Json.Correspondence related)
    {loader : Loader} : (Denotes loader).Agree related (Denotes loader) := by
  have stage (height : Nat) : (DenotesIn loader height).Agree related (DenotesIn loader height) := by
    induction height with
    | zero => exact fun _ _ _ _ _ _ _ => Iff.rfl
    | succ height ih =>
      intro site site' node node' ty alike same
      cases node with
      | obj members =>
        obtain ⟨members', rfl, rearranged⟩ := correspondence.object same
        exact Outlined.object_congr ih alike correspondence.reflexive loader rearranged
      | _ =>
        obtain rfl := correspondence.other rfl same
        exact iff_of_false Outlined.not_none Outlined.not_none
  exact fun site site' node node' ty alike same =>
    exists_congr fun height => stage height site site' node node' ty alike same

end SchemaTypes
