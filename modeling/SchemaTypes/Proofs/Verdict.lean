import SchemaTypes.Proofs.Counterpart
import SchemaTypes.Proofs.Harvest
import SchemaTypes.Proofs.Standing

/-! Compiling decides what a node denotes, but for documents that are open. A good end gives what the
node denotes. An error says that the node denotes nothing that the depth suffices for, or it is about
a document that is referred to while it is open. -/
namespace SchemaTypes

/-- A reference to another document was taken for a cycle, and that document was opened before. -/
def CompileError.Reenters (loader : Loader) (journal : List Event) : CompileError → Prop
  | .cyclicReference reference position =>
    Reference.localFragment? reference = none ∧
      loader.Opened journal (Location.resolve (Reference.split reference).1 position.document).key
  | _ => False

/-- What a run tells about values that are right and values that are possible. -/
structure Compile.TellsFrom {α : Type} (loader : Loader) (body : Compile α) (state : State)
    (site : Site) (height : Nat) (right possible : α → Prop) : Prop where
  gives : ∀ a after, body state = (.ok a, after) → right a ∧ site.Admits loader height after
  fails : ∀ error after, body state = (.error error, after) →
    error.Reenters loader after.journal ∨ ∀ a, ¬possible a

def Compile.Tells {α : Type} (loader : Loader) (body : Compile α) (site : Site) (height : Nat)
    (right possible : α → Prop) : Prop :=
  ∀ state, site.Admits loader height state →
    body.TellsFrom loader state site height right possible

/-- A computation that comes to what an outline gives, and to nothing only if the outline gives
nothing for nodes with derivations up to `reach`. -/
def Compile.Fulfils (loader : Loader) (body : Compile Ty) (site : Site) (height reach : Nat)
    (outline : Option Outline) : Prop :=
  body.Tells loader site height (Outlined (Denotes loader) outline)
    (Outlined (DenotesIn loader reach) outline)

/-- A compiler that decides what nodes denote, as far as its depth suffices and slots that are being
compiled are left out. -/
def NodeCompiler.Tells (loader : Loader) (depth : Nat) (compile : NodeCompiler) : Prop :=
  ∀ site height reach node, reach ≤ height + 1 → reach ≤ depth →
    (compile node).Tells loader site height (Denotes loader site node)
      (DenotesIn loader reach site node)

variable {loader : Loader} {site : Site} {height reach depth : Nat}

namespace Compile

variable {α β : Type} {body : Compile α} {state : State} {right possible : α → Prop}

theorem TellsFrom.pure {a : α} (admitted : site.Admits loader height state) (fits : right a) :
    (Pure.pure a : Compile α).TellsFrom loader state site height right possible where
  gives := by
    intro value after ran
    cases ran
    exact ⟨fits, admitted⟩
  fails := by rintro _ _ ⟨⟩

theorem TellsFrom.fail {fault : Fault} (impossible : ∀ a, ¬possible a) :
    (Compile.fail fault : Compile α).TellsFrom loader state site height right possible where
  gives := by rintro _ _ ⟨⟩
  fails := fun _ _ _ => .inr impossible

theorem TellsFrom.imp {right' possible' : α → Prop}
    (tells : body.TellsFrom loader state site height right possible)
    (weaker : ∀ a, right a → right' a) (stronger : ∀ a, possible' a → possible a) :
    body.TellsFrom loader state site height right' possible' where
  gives a after ran := (tells.gives a after ran).imp_left (weaker a)
  fails error after ran :=
    (tells.fails error after ran).imp_right fun never a possible => never a (stronger a possible)

/-- What is possible for the whole has a first part that is possible, and that part is what the first
computation gives. -/
theorem TellsFrom.bind {next : α → Compile β} {right' possible' : α → β → Prop}
    (first : body.TellsFrom loader state site height right possible)
    (rest : ∀ a, right a → (next a).Tells loader site height (right' a) (possible' a))
    (unique : ∀ a b, right a → possible b → a = b) :
    (body >>= next).TellsFrom loader state site height (fun b => ∃ a, right a ∧ right' a b)
      (fun b => ∃ a, possible a ∧ possible' a b) where
  gives := by
    intro b after ran
    obtain ⟨a, middle, firstRan, nextRan⟩ := bind_ok ran
    obtain ⟨fits, admitted⟩ := first.gives a middle firstRan
    obtain ⟨fits', admitted'⟩ := (rest a fits middle admitted).gives b after nextRan
    exact ⟨⟨a, fits, fits'⟩, admitted'⟩
  fails := by
    intro error after ran
    rcases bind_error ran with ended | ⟨a, middle, firstRan, nextRan⟩
    · exact (first.fails error after ended).imp_right
        fun never _ ⟨a, possible, _⟩ => never a possible
    · obtain ⟨fits, admitted⟩ := first.gives a middle firstRan
      refine ((rest a fits middle admitted).fails error after nextRan).imp_right ?_
      rintro never b ⟨other, possible, possible'⟩
      cases unique a other fits possible
      exact never b possible'

/-- What a computation tells at another site with the same blocks it tells when it is run there and
back, with documents closed behind it. -/
theorem TellsFrom.elsewhere {body' : Compile α} {state' : State} {site' : Site} {closed : Nat}
    (there : body'.TellsFrom loader state' site' height right possible)
    (admitted : site.Admits loader height state) (blocks : site'.blocks = site.blocks)
    (ended : body state = ((body' state').1, { (body' state').2 with
      position := state.position, opened := (body' state').2.opened.drop closed })) :
    body.TellsFrom loader state site height right possible where
  gives a last ran := by
    obtain ⟨outcome, rfl⟩ := Prod.mk.inj (ended.symm.trans ran)
    obtain ⟨fits, inside⟩ := there.gives a _ (Prod.ext outcome rfl)
    exact ⟨fits, admitted.document, blocks ▸ inside.blocks,
      fun key listed => inside.opened key (List.mem_of_mem_drop listed)⟩
  fails error last ran := by
    obtain ⟨outcome, rfl⟩ := Prod.mk.inj (ended.symm.trans ran)
    exact there.fails error (body' state').2 (Prod.ext outcome rfl)

/-- What comes before tells nothing when it does nothing but note. -/
theorem TellsFrom.after_quiet {first : Compile β} {b : β} {next : β → Compile α}
    (added : List Event) (admitted : site.Admits loader height state)
    (ended : first state = (.ok b, { state with journal := added ++ state.journal }))
    (rest : (next b).Tells loader site height right possible) :
    (first >>= next).TellsFrom loader state site height right possible where
  gives a after ran := by
    rw [bind_of_ok ended] at ran
    exact (rest _ (admitted.noting added)).gives a after ran
  fails error after ran := by
    rw [bind_of_ok ended] at ran
    exact (rest _ (admitted.noting added)).fails error after ran

/-- A note about a result does not change it. -/
theorem TellsFrom.noted {event : α → Position → Event}
    (tells : body.TellsFrom loader state site height right possible) :
    (do let a ← body; Compile.note (event a); Pure.pure a : Compile α).TellsFrom loader state site
      height right possible where
  gives a after ran := by
    obtain ⟨_, middle, ended, noted⟩ := bind_ok ran
    cases noted
    obtain ⟨fits, admitted⟩ := tells.gives _ middle ended
    exact ⟨fits, admitted.noting [event a middle.position]⟩
  fails error after ran := by
    obtain ended | ⟨_, _, _, ⟨⟩⟩ := bind_error ran
    exact tells.fails error after ended

namespace Tells

theorem pure {a : α} (fits : right a) :
    (Pure.pure a : Compile α).Tells loader site height right possible :=
  fun _ admitted => .pure admitted fits

theorem fail {fault : Fault} (impossible : ∀ a, ¬possible a) :
    (Compile.fail fault : Compile α).Tells loader site height right possible :=
  fun _ _ => .fail impossible

theorem imp {right' possible' : α → Prop} (tells : body.Tells loader site height right possible)
    (weaker : ∀ a, right a → right' a) (stronger : ∀ a, possible' a → possible a) :
    body.Tells loader site height right' possible' := fun state admitted =>
  (tells state admitted).imp weaker stronger

theorem bind {next : α → Compile β} {right' possible' : α → β → Prop}
    (first : body.Tells loader site height right possible)
    (rest : ∀ a, right a → (next a).Tells loader site height (right' a) (possible' a))
    (unique : ∀ a b, right a → possible b → a = b) :
    (body >>= next).Tells loader site height (fun b => ∃ a, right a ∧ right' a b)
      (fun b => ∃ a, possible a ∧ possible' a b) := fun state admitted =>
  (first state admitted).bind rest unique

/-- A note tells nothing. -/
theorem after_note {event : Position → Event} {next : Unit → Compile α}
    (rest : (next ()).Tells loader site height right possible) :
    (Compile.note event >>= next).Tells loader site height right possible :=
  fun state admitted => .after_quiet [event state.position] admitted rfl rest

theorem under (segments : List String) (inside : body.Tells loader site height right possible) :
    (Compile.under segments body).Tells loader site height right possible := by
  intro state admitted
  obtain ⟨gives, fails⟩ := inside
    { state with position.path := state.position.path ++ segments }
    ⟨admitted.document, admitted.blocks, admitted.opened⟩
  refine ⟨fun a after ran => ?_, fun error after ran => ?_⟩
  · obtain ⟨inner, ended, rfl⟩ := under_ok ran
    obtain ⟨fits, document, matched, opened⟩ := gives a inner ended
    exact ⟨fits, document, matched, opened⟩
  · obtain ⟨ended, rfl⟩ := Prod.mk.inj ran
    exact fails error (body _).2 (Prod.ext ended rfl)

end Tells

end Compile

/-- A computation that comes to what a plan gives, where the plan is all that there is. -/
theorem Compile.Fulfils.of_plan {body : Compile Ty} {plan : Plan Ty}
    (tells : body.Tells loader site height (plan.Yields (Denotes loader site))
      (plan.Yields (DenotesIn loader reach site))) :
    body.Fulfils loader site height reach (some ⟨[], site, plan⟩) :=
  tells.imp (fun _ given => Outlined.some_iff.mpr (Outlined.plan_iff.mpr given))
    fun _ given => Outlined.plan_iff.mp (Outlined.some_iff.mp given)

/-- A plan decides what it can give when nodes have the types that they denote. -/
theorem Plan.run_tells {α : Type} {compile : NodeCompiler} (tells : compile.Tells loader depth)
    (low : reach ≤ height) (deep : reach ≤ depth) (plan : Plan α) :
    (plan.run compile).Tells loader site height (plan.Yields (Denotes loader site))
      (plan.Yields (DenotesIn loader reach site)) := by
  induction plan with
  | done a => exact .pure rfl
  | fail fault => exact .fail fun _ => id
  | note remark =>
    refine fun state admitted => ⟨?_, by rintro _ _ ⟨⟩⟩
    intro a after ran
    cases ran
    exact ⟨trivial, admitted.noting [.ignored remark state.position]⟩
  | visit node => exact tells site height reach node (Nat.le_succ_of_le low) deep
  | under segments plan ih => exact ih.under segments
  | andThen first next firstIH nextIH =>
    refine firstIH.bind (fun a _ => nextIH a) fun a b left right => ?_
    exact left.unique right fun _ _ _ left right => left.unique right.denotes

namespace Definitions

variable {compile : NodeCompiler} {state : State} {name : String} (restores : compile.Restores)
  (tells : compile.Tells loader depth) (low : reach ≤ height) (deep : reach ≤ depth)

include restores tells low deep

/-- A demanded body is compiled as it is meant where it is declared. While it is compiled, its slot
stands for a body without derivations up to the height below its lowest one. -/
theorem demand_tells {definition : Definition} {hidden outer : Scope} {layer : Layer} {block : Nat}
    (found : state.scope.find? name = some ⟨outer.length, block, .pending definition⟩)
    (parts : state.scope = hidden ++ layer :: outer)
    (admitted : site.Admits loader height state)
    (declares : Blocks.Matches.Declares loader height site.blocks name (.pending definition) hidden
      layer outer) :
    (demand compile outer.length name definition).TellsFrom loader state site height
      (Denotes loader declares.declared declares.node)
      (DenotesIn loader reach declares.declared declares.node) := by
  obtain ⟨same, document⟩ := declares.stands
  -- A lowest derivation of the body does not use the body itself, so while the body is compiled, no
  -- derivation below that height is missed when its own name counts as a failure.
  obtain ⟨least, within, refused, above⟩ :=
    DenotesIn.threshold loader reach declares.declared declares.node
  have shallow : least ≤ height := Nat.le_trans within low
  have entering : declares.declared.Admits loader least
      (demanding state name definition layer outer) :=
    ⟨document, declares.replace least layer outer .compiling (declares.visible.mono shallow) refused,
      admitted.opened⟩
  rw [← same] at refused above ⊢
  refine ⟨fun ty after ran => ?_, fun error after ran => ?_⟩
  · have kept := demand_restores restores found rfl
    unfold Compile.RestoresFrom at kept
    rw [ran] at kept
    obtain ⟨events, kept⟩ := kept
    obtain ⟨middle, inner, rest, compiled, scope, -, -, rfl⟩ := demand_ok restores parts ran
    obtain ⟨denoted, -, inside, opened⟩ := (tells declares.declared least 0 definition.node
      (Nat.zero_le _) (Nat.zero_le _) _ entering).gives ty middle compiled
    rw [scope] at inside
    -- This is known for low derivations only. But the slots that are still being compiled are those
    -- from before, so what was known of them for higher ones still holds.
    have filled : site.blocks.Matches loader least (hidden ++ inner.set name (.ready ty) :: rest) :=
      declares.back least shallow _
        (declares.replace least inner rest (.ready ty) inside (same ▸ denoted))
    exact ⟨denoted, admitted.document, admitted.blocks.lift filled kept.scope, opened⟩
  · rcases above with rfl | ⟨room, other, derivable⟩
    · exact .inr refused
    · obtain ⟨middle, ended, journal⟩ := demand_error parts ran
      rw [journal]
      refine ((tells declares.declared least (least + 1) definition.node (Nat.le_refl _)
        (Nat.le_trans room deep) _ entering).fails error middle ended).imp_right fun never => ?_
      exact (never other derivable).elim

/-- A name in scope is settled as the site means it, whatever its slot holds. -/
theorem settle_tells (reference : String) {binding : Scope.Binding}
    (admitted : site.Admits loader height state) (found : state.scope.find? name = some binding) :
    (settle compile name reference binding).TellsFrom loader state site height
      (Outlined (Denotes loader) (site.meaning name))
      (Outlined (DenotesIn loader reach) (site.meaning name)) := by
  obtain ⟨depth, block, held⟩ := binding
  obtain ⟨hidden, layer, outer, parts, rfl, -, slot, shadowless⟩ := Scope.located found
  have matched := admitted.blocks
  rw [parts] at matched
  rcases matched.found shadowless slot with ⟨ty, known, means⟩ | declares
  · cases known
    exact .pure admitted (Outlined.meaning_iff.mpr (.inl means))
  · obtain ⟨declares⟩ := declares
    refine Compile.TellsFrom.imp ?_ (fun ty => declares.meaning_iff.mpr)
      fun ty => declares.meaning_iff.mp
    cases held with
    | ready ty => exact .pure admitted declares.stands
    | compiling => exact .fail fun ty derived => declares.stands ty (derived.mono low)
    | pending definition =>
      exact demand_tells restores tells low deep found parts admitted declares

theorem resolve_tells (name reference : String) :
    (resolve compile name reference).Fulfils loader site height reach (site.meaning name) := by
  intro state admitted
  cases found : state.scope.find? name with
  | none =>
    have undefined : site.meaning name = none := by
      rw [Site.meaning, admitted.blocks.find?_none found]
      rfl
    rw [undefined]
    refine ⟨fun ty after ran => ?_, fun _ _ _ => .inr fun _ => Outlined.not_none⟩
    rw [resolve_of_none found] at ran
    cases ran
  | some binding =>
    obtain ⟨gives, fails⟩ := (settle_tells restores tells low deep reference admitted found).noted
    refine ⟨fun ty after ran => ?_, fun error after ran => ?_⟩
    · rw [resolve_of_some found] at ran
      exact gives ty after ran
    · rw [resolve_of_some found] at ran
      exact fails error after ran

theorem resolveAll_tells (entries : List Entry) :
    (resolveAll compile entries).Tells loader site height
      (fun _ => ∀ entry ∈ entries, ∃ ty, Outlined (Denotes loader) (site.meaning entry.name) ty)
      (fun _ => ∀ entry ∈ entries,
        ∃ ty, Outlined (DenotesIn loader reach) (site.meaning entry.name) ty) := by
  induction entries with
  | nil => exact .pure (by simp)
  | cons entry rest ih =>
    refine ((resolve_tells restores tells low deep entry.name entry.reference).bind
      (fun _ _ => ih) fun _ _ => Denotes.unique_low).imp ?_ ?_
    · rintro ⟨⟩ ⟨ty, means, others⟩
      exact List.forall_mem_cons.mpr ⟨⟨ty, means⟩, others⟩
    · rintro ⟨⟩ all
      obtain ⟨⟨ty, means⟩, others⟩ := List.forall_mem_cons.mp all
      exact ⟨ty, means, others⟩

omit restores tells low deep in
theorem withLayer_tells {α : Type} {right possible : α → Prop} {entries : List Entry}
    (full : entries.isEmpty = false) {body : Compile α}
    (inside : body.Tells loader (site.inside entries) height right possible)
    (admitted : site.Admits loader height state) :
    (Compile.withLayer (slots state.position entries) body).TellsFrom loader state site height right
      possible := by
  obtain ⟨gives, fails⟩ := inside _ (admitted.entering full)
  refine ⟨fun a after ran => ?_, fun error after ran => ?_⟩
  · obtain ⟨inner, ended, rfl⟩ := Compile.withLayer_ok ran
    obtain ⟨fits, within⟩ := gives a inner ended
    exact ⟨fits, within.leaving full⟩
  · obtain ⟨ended, rfl⟩ := Prod.mk.inj ran
    exact fails error (body _).2 (Prod.ext ended rfl)

/-- Whatever a computation comes to at each site it comes to inside a node, where all bodies of the
node have types too. -/
theorem within_tells (members : Members) {body : Compile Ty}
    {next : Site → Option Outline}
    (inside : ∀ site, body.Fulfils loader site height reach (next site)) :
    (within compile members body).Fulfils loader site height reach
      (site.declaring members next) := by
  cases read : Definitions.entries members with
  | error fault =>
    unfold within Compile.Fulfils Site.declaring
    simp only [read]
    exact .fail fun _ => Outlined.not_none
  | ok entries =>
    have whole : (do resolveAll compile entries; body).Fulfils loader (site.inside entries) height
        reach (site.declaring members next) := by
      refine ((resolveAll_tells restores tells low deep entries).bind
        (fun _ _ => inside _) fun _ _ _ _ => rfl).imp ?_ ?_
      · rintro ty ⟨_, means, fits⟩
        exact Outlined.declaring_iff.mpr ⟨entries, read, Outlined.entries_iff.mp means, fits⟩
      · intro ty outlined
        obtain ⟨entries', read', bodies, fits⟩ := Outlined.declaring_iff.mp outlined
        cases read.symm.trans read'
        exact ⟨(), Outlined.entries_iff.mpr bodies, fits⟩
    cases entries with
    | nil =>
      rw [within_of_nil read]
      exact whole
    | cons entry rest =>
      rw [within_of_cons read]
      refine .after_note fun state admitted => ?_
      obtain ⟨gives, fails⟩ := withLayer_tells rfl whole admitted
      exact ⟨gives, fails⟩

end Definitions

/-- In a document that is opened, the site is the whole document inside the same blocks. -/
theorem Site.Admits.opening {location : Location} {document : Json} {state : State}
    (admitted : site.Admits loader height state) (loaded : loader.load location = .ok document) :
    Site.Admits loader height ⟨some location, site.blocks⟩
      (Reference.entered loader location state) := by
  refine ⟨rfl, admitted.blocks, List.forall_mem_cons.mpr ⟨?_, fun key listed => ?_⟩⟩
  · exact ⟨location, document, List.mem_cons_self, loaded, rfl⟩
  · exact (admitted.opened key listed).later [.opening location loader.announces]

namespace Reference

variable {compile : NodeCompiler} (restores : compile.Restores)
  (tells : compile.Tells loader depth) (low : reach ≤ height) (deep : reach ≤ depth)

include restores tells low deep

theorem document_tells (reference fragment : String) (document : Json) :
    (Reference.document compile reference fragment document).Fulfils loader site height reach
      (site.excerpt fragment document) := by
  have visits (site : Site) (node : Json) :
      (compile node).Fulfils loader site height reach (some ⟨[], site, .visit node⟩) :=
    .of_plan (tells site height reach node (Nat.le_succ_of_le low) deep)
  unfold Reference.document Site.excerpt
  split
  · exact visits site document
  · cases document with
    | obj members =>
      refine Definitions.within_tells restores tells low deep members fun inner => ?_
      cases definitionName? fragment with
      | some name => exact Definitions.resolve_tells restores tells low deep name reference
      | none =>
        dsimp only
        cases (Json.obj members).pointer? fragment with
        | none => exact .fail fun _ => Outlined.not_none
        | some node =>
          intro state admitted
          let moved : State := { state with position.path := Pointer.segments fragment }
          have there := visits inner node moved
            ⟨admitted.document, admitted.blocks, admitted.opened⟩
          have ended : (do
              let position ← Compile.read (·.position)
              Compile.within { position with path := Pointer.segments fragment } (compile node) :
                Compile Ty) state =
              ((compile node moved).1, { (compile node moved).2 with
                position := state.position, opened := (compile node moved).2.opened.drop 0 }) := rfl
          exact there.elsewhere admitted rfl ended
    | _ => exact .fail fun _ => Outlined.not_none

theorem external_tells {reference : String}
    (outside : localFragment? reference = none) :
    (external loader compile reference).Fulfils loader site height reach
      (site.follow loader reference) := by
  intro state admitted
  have same : target reference state = site.target reference := by
    rw [target, Site.target, admitted.document]
  unfold Site.follow
  rw [outside]
  dsimp only
  rw [← same]
  by_cases cyclic : (target reference state).key ∈ state.opened
  · refine ⟨fun ty after ran => ?_, fun error after ran => .inl ?_⟩
    · rw [external_of_open cyclic] at ran
      cases ran
    · rw [external_of_open cyclic] at ran
      cases ran
      exact ⟨outside, admitted.opened _ cyclic⟩
  · cases loaded : loader.load (target reference state) with
    | error error =>
      refine ⟨fun ty after ran => ?_, fun _ _ _ => .inr fun _ => Outlined.not_none⟩
      rw [external_of_failed cyclic loaded] at ran
      cases ran
    | ok document =>
      have there := document_tells restores tells low deep reference (split reference).2 document
        _ (admitted.opening loaded)
      simp only [Except.toOption, Option.bind_some]
      exact there.elsewhere admitted rfl (external_of_loaded cyclic loaded)

theorem resolve_tells (reference : String) :
    (resolve loader compile reference).Fulfils loader site height reach
      (site.follow loader reference) := by
  refine .after_note ?_
  cases inside : localFragment? reference with
  | none => exact external_tells restores tells low deep inside
  | some fragment =>
    unfold Site.follow
    rw [inside]
    dsimp only
    cases definitionName? fragment with
    | none => exact .fail fun _ => Outlined.not_none
    | some name => exact Definitions.resolve_tells restores tells low deep name reference

end Reference

namespace Node

variable {compile : NodeCompiler} (restores : compile.Restores)
  (tells : compile.Tells loader depth) (low : reach ≤ height) (deep : reach ≤ depth)

include restores tells low deep

theorem object_tells (members : Members) :
    (object loader compile members).Fulfils loader site height reach
      (site.object loader members) := by
  unfold object Site.object
  cases members.get? "$ref" with
  | some value =>
    cases value with
    | str reference => exact Reference.resolve_tells restores tells low deep reference
    | _ => exact .fail fun _ => Outlined.not_none
  | none =>
    intro state admitted
    obtain ⟨added, noted⟩ := noteIgnored_run members ignoredKeywords state
    have inner (site : Site) : ((body members).run compile).Fulfils loader site height reach
        (some ⟨[], site, body members⟩) :=
      .of_plan (Plan.run_tells tells low deep (body members))
    exact .after_quiet added admitted (noted compile)
      (Definitions.within_tells restores tells low deep members inner)

omit low deep in
theorem step_tells :
    NodeCompiler.Tells loader (depth + 1) (step loader compile) := by
  intro site height reach node low deep
  refine .after_note ?_
  cases node with
  | obj members =>
    have ended : (object loader compile members).Fulfils loader site height (reach - 1)
        (site.object loader members) :=
      object_tells restores tells (by omega) (by omega) members
    refine Compile.Tells.imp (fun state admitted => (ended state admitted).noted)
      (fun ty given => Denotes.of_outline given) fun ty possible => ?_
    cases reach with
    | zero => exact possible.elim
    | succ reach => exact possible
  | _ =>
    refine .fail fun ty possible => ?_
    cases reach with
    | zero => exact possible
    | succ reach => exact Outlined.not_none possible

omit restores tells low deep in
theorem compile_tells (loader : Loader) (depth : Nat) :
    NodeCompiler.Tells loader depth (Node.compile loader depth) := by
  induction depth with
  | zero =>
    intro site height reach node _ shallow state admitted
    cases Nat.le_zero.mp shallow
    exact ⟨by rintro _ _ ⟨⟩, fun _ _ _ => .inr fun _ => id⟩
  | succ depth ih => exact step_tells (compile_restores loader depth) ih

end Node

end SchemaTypes
