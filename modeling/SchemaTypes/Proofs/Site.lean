import SchemaTypes.Proofs.Lexical
import SchemaTypes.Schema.Reference

/-! What a schema means together with the documents that it refers to. A node is judged at a site: in
a document, with the blocks of definitions around it. A name means the body of its innermost
definition, judged at the site of that definition. Another document is judged inside the blocks
around the reference, which it sees. Nothing here depends on which documents are open. -/
namespace SchemaTypes

/-- The blocks of definitions around a node, each with the document that it stands in; the types that
are known beforehand are outside of all. -/
inductive Blocks where
  | known (registry : Registry)
  | block (document : Option Location) (definitions : Members) (outer : Blocks)

structure Site where
  document : Option Location
  blocks : Blocks

/-- What a name means: a type, or a body at the site of its definition. -/
inductive Site.Meaning where
  | type (ty : Ty)
  | body (declared : Site) (node : Json)

/-- The innermost meaning of a name. -/
def Blocks.find? : Blocks → String → Option Site.Meaning
  | known registry, name => (registry.get? name).map .type
  | block document definitions outer, name =>
    match definitions.lookup name with
    | some node => some (.body ⟨document, block document definitions outer⟩ node)
    | none => outer.find? name

abbrev Judgement := Site → Json → Ty → Prop

/-- What the type of a node comes from: a plan for nodes at a site, and bodies that must have types,
whichever these are. -/
structure Outline where
  required : List (Site × Json)
  site : Site
  plan : Plan Ty

def Outline.Yields (judged : Judgement) (outline : Outline) (ty : Ty) : Prop :=
  (∀ body ∈ outline.required, ∃ ty, judged body.1 body.2 ty) ∧
    outline.plan.Yields (judged outline.site) ty

/-- The type that an outline gives, if there is an outline. -/
def Outlined (judged : Judgement) (outline : Option Outline) (ty : Ty) : Prop :=
  ∃ found, outline = some found ∧ found.Yields judged ty

namespace Site

def meaning (site : Site) (name : String) : Option Outline :=
  (site.blocks.find? name).map fun
    | .type ty => ⟨[], site, .done ty⟩
    | .body declared node => ⟨[], declared, .visit node⟩

/-- The site of what is inside a node with these entries. -/
def inside (site : Site) (entries : List Definitions.Entry) : Site :=
  if entries.isEmpty then site
  else ⟨site.document, .block site.document (Definitions.effective entries) site.blocks⟩

/-- An outline inside a node, all bodies of which must have types. -/
def declaring (site : Site) (members : Members) (next : Site → Option Outline) : Option Outline :=
  match Definitions.entries members with
  | .error _ => none
  | .ok entries =>
    (next (site.inside entries)).map fun outline => { outline with
      required := (Definitions.effective entries).map (fun body => (site.inside entries, body.2)) ++
        outline.required }

/-- A document, or the part of it that a fragment names. -/
def excerpt (site : Site) (fragment : String) (document : Json) : Option Outline :=
  if fragment.isEmpty then some ⟨[], site, .visit document⟩
  else
    match document with
    | .obj members =>
      site.declaring members fun inner =>
        match Reference.definitionName? fragment with
        | some name => inner.meaning name
        | none => (document.pointer? fragment).map fun node => ⟨[], inner, .visit node⟩
    | _ => none

/-- The location of the document that a reference names. -/
def target (site : Site) (reference : String) : Location :=
  Location.resolve (Reference.split reference).1 site.document

def follow (loader : Loader) (site : Site) (reference : String) : Option Outline :=
  match Reference.localFragment? reference with
  | some fragment => (Reference.definitionName? fragment).bind site.meaning
  | none => (loader.load (site.target reference)).toOption.bind
      (excerpt ⟨some (site.target reference), site.blocks⟩ (Reference.split reference).2)

def object (loader : Loader) (site : Site) (members : Members) : Option Outline :=
  match members.get? "$ref" with
  | some (.str reference) => site.follow loader reference
  | some _ => none
  | none => site.declaring members fun inner => some ⟨[], inner, Node.body members⟩

def outline (loader : Loader) (site : Site) : Json → Option Outline
  | .obj members => site.object loader members
  | _ => none

end Site

/-- Derivations up to a height. -/
def DenotesIn (loader : Loader) : Nat → Judgement
  | 0, _, _, _ => False
  | height + 1, site, node, ty => Outlined (DenotesIn loader height) (site.outline loader node) ty

/-- A node has a type at a site. -/
def Denotes (loader : Loader) : Judgement := fun site node ty =>
  ∃ height, DenotesIn loader height site node ty

variable {judged judged' : Judgement} {outline : Option Outline} {loader : Loader} {site : Site}
  {node : Json} {name : String} {members : Members} {ty ty' : Ty} {height taller : Nat}

namespace Outlined

theorem imp (outlined : Outlined judged outline ty)
    (weaker : ∀ site node ty, judged site node ty → judged' site node ty) :
    Outlined judged' outline ty := by
  obtain ⟨found, here, bodies, given⟩ := outlined
  refine ⟨found, here, fun body member => ?_, given.imp (weaker _)⟩
  obtain ⟨ty, derived⟩ := bodies body member
  exact ⟨ty, weaker _ _ _ derived⟩

theorem unique (left : Outlined judged outline ty) (right : Outlined judged' outline ty')
    (unique : ∀ site node ty ty', judged site node ty → judged' site node ty' → ty = ty') :
    ty = ty' := by
  obtain ⟨found, here, -, given⟩ := left
  obtain ⟨found', here', -, given'⟩ := right
  cases here.symm.trans here'
  exact given.unique given' (unique _)

/-- What an outline gives when nodes are judged at any stage it gives at some stage. -/
theorem bounded {judged : Nat → Judgement}
    (grows : ∀ {n m site node ty}, n ≤ m → judged n site node ty → judged m site node ty)
    (outlined : Outlined (fun site node ty => ∃ n, judged n site node ty) outline ty) :
    ∃ n, Outlined (judged n) outline ty := by
  obtain ⟨found, here, bodies, given⟩ := outlined
  obtain ⟨n, bodies⟩ : ∃ n, ∀ body ∈ found.required, ∃ ty, judged n body.1 body.2 ty := by
    refine List.exists_stage (fun within derived => ?_) fun body member => ?_
    · exact derived.imp fun _ => grows within
    · obtain ⟨ty, n, derived⟩ := bodies body member
      exact ⟨n, ty, derived⟩
  obtain ⟨m, given⟩ : ∃ m, found.plan.Yields (judged m found.site) ty :=
    Plan.Yields.bounded grows given
  refine ⟨max n m, found, here, fun body member => ?_, ?_⟩
  · obtain ⟨ty, derived⟩ := bodies body member
    exact ⟨ty, grows (Nat.le_max_left n m) derived⟩
  · exact given.imp fun _ _ => grows (Nat.le_max_right n m)

@[simp] theorem not_none : ¬Outlined judged none ty := by
  rintro ⟨_, ⟨⟩, _⟩

@[simp] theorem some_iff {found : Outline} :
    Outlined judged (some found) ty ↔ found.Yields judged ty := by
  constructor
  · rintro ⟨_, ⟨⟩, given⟩
    exact given
  · exact fun given => ⟨found, rfl, given⟩

/-- A plan that no other body is required for. -/
@[simp] theorem plan_iff {plan : Plan Ty} :
    Outline.Yields judged ⟨[], site, plan⟩ ty ↔ plan.Yields (judged site) ty := by
  simp [Outline.Yields]

theorem meaning_iff : Outlined judged (site.meaning name) ty ↔
    site.blocks.find? name = some (.type ty) ∨ ∃ declared node,
      site.blocks.find? name = some (.body declared node) ∧ judged declared node ty := by
  unfold Site.meaning
  cases found : site.blocks.find? name with
  | none => simp
  | some meaning =>
    cases meaning with
    | type known => simp [Plan.Yields, eq_comm]
    | body declared node => simp [Plan.Yields]

/-- Inside of a node all its bodies have types, and then its own outline counts. -/
theorem declaring_iff {next : Site → Option Outline} :
    Outlined judged (site.declaring members next) ty ↔
      ∃ entries, Definitions.entries members = .ok entries ∧
        (∀ body ∈ Definitions.effective entries, ∃ ty, judged (site.inside entries) body.2 ty) ∧
        Outlined judged (next (site.inside entries)) ty := by
  unfold Site.declaring
  cases read : Definitions.entries members with
  | error fault => simp
  | ok entries =>
    simp only [Except.ok.injEq, exists_eq_left']
    cases next (site.inside entries) with
    | none => simp
    | some found =>
      simp only [Option.map_some, some_iff, Outline.Yields, List.forall_mem_append,
        List.forall_mem_map, and_assoc]

end Outlined

namespace DenotesIn

theorem succ (derived : DenotesIn loader height site node ty) :
    DenotesIn loader (height + 1) site node ty := by
  induction height generalizing site node ty with
  | zero => exact derived.elim
  | succ height ih => exact Outlined.imp derived fun _ _ _ => ih

theorem mono (within : height ≤ taller) (derived : DenotesIn loader height site node ty) :
    DenotesIn loader taller site node ty := by
  induction within with
  | refl => exact derived
  | step _ ih => exact ih.succ

theorem denotes (derived : DenotesIn loader height site node ty) : Denotes loader site node ty :=
  ⟨height, derived⟩

theorem unique (left : DenotesIn loader height site node ty)
    (right : DenotesIn loader taller site node ty') : ty = ty' := by
  induction height generalizing taller site node ty ty' with
  | zero => exact left.elim
  | succ height ih =>
    cases taller with
    | zero => exact right.elim
    | succ taller => exact Outlined.unique left right fun _ _ _ _ => ih

/-- Below a height a node has no derivation up to some point, and one right above it if any. -/
theorem threshold (loader : Loader) (height : Nat) (site : Site) (node : Json) :
    ∃ low ≤ height, (∀ ty, ¬DenotesIn loader low site node ty) ∧
      (low = height ∨ low < height ∧ ∃ ty, DenotesIn loader (low + 1) site node ty) := by
  obtain ⟨low, within, refused, above⟩ :=
    Nat.exists_threshold (∃ ty, DenotesIn loader · site node ty) (fun ⟨_, derived⟩ => derived) height
  exact ⟨low, within, not_exists.mp refused, above⟩

end DenotesIn

namespace Denotes

theorem unique (left : Denotes loader site node ty) (right : Denotes loader site node ty') :
    ty = ty' := by
  obtain ⟨height, left⟩ := left
  obtain ⟨taller, right⟩ := right
  exact left.unique right

theorem of_outline (outlined : Outlined (Denotes loader) (site.outline loader node) ty) :
    Denotes loader site node ty := by
  obtain ⟨height, outlined⟩ : ∃ height, Outlined (DenotesIn loader height) _ ty :=
    Outlined.bounded (fun within derived => derived.mono within) outlined
  exact ⟨height + 1, outlined⟩

theorem unique_low (left : Outlined (Denotes loader) outline ty)
    (right : Outlined (DenotesIn loader height) outline ty') : ty = ty' :=
  left.unique right fun _ _ _ _ left right => left.unique right.denotes

end Denotes

/-- All entries of a node have types by their names exactly when all effective bodies have types. -/
theorem Outlined.entries_iff {entries : List Definitions.Entry} :
    (∀ entry ∈ entries, ∃ ty, Outlined judged ((site.inside entries).meaning entry.name) ty) ↔
      ∀ body ∈ Definitions.effective entries, ∃ ty, judged (site.inside entries) body.2 ty := by
  have declared {name : String} {body : Json}
      (found : (Definitions.effective entries).lookup name = some body) :
      (site.inside entries).blocks.find? name = some (.body (site.inside entries) body) := by
    have full : entries.isEmpty = false := by
      cases entries with
      | nil => cases found
      | cons => rfl
    simp only [Site.inside, full, Bool.false_eq_true, if_false, Blocks.find?, found]
  constructor
  · intro means body member
    obtain ⟨entry, here, same⟩ := List.mem_map.mp (Keyed.mem_ofPairs member)
    have found := Keyed.lookup_of_mem (Keyed.nodup_ofPairs _) member
    obtain ⟨ty, means⟩ := means entry here
    rw [← same] at found ⊢
    rw [meaning_iff, declared found] at means
    obtain ⟨⟨⟩⟩ | ⟨_, _, ⟨⟩, derived⟩ := means
    exact ⟨ty, derived⟩
  · intro bodies entry member
    have named : entry.name ∈ Keyed.keys (Definitions.effective entries) :=
      Keyed.mem_keys_ofPairs (List.mem_map.mpr ⟨_, List.mem_map_of_mem member, rfl⟩)
    obtain ⟨body, found⟩ := Keyed.exists_lookup named
    obtain ⟨ty, derived⟩ := bodies _ (Keyed.mem_of_lookup found)
    exact ⟨ty, meaning_iff.mpr (.inr ⟨_, _, declared found, derived⟩)⟩

end SchemaTypes
