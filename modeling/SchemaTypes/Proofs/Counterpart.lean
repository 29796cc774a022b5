import SchemaTypes.Proofs.Congruence
import SchemaTypes.Proofs.Restoration

/-! Two scopes that correspond layer by layer, but for their outer part, which may be anything on one
side and is a given scope on the other; and what is known in a scope without compiling. -/
namespace SchemaTypes

namespace Scope

/-- A name stands for a type already. -/
def Knows (scope : Scope) (name : String) (ty : Ty) : Prop :=
  ∃ level block, scope.find? name = some ⟨level, block, .ready ty⟩

/-- Whatever the one scope knows, the other knows. -/
def Promises (scope scope' : Scope) : Prop := ∀ name ty, scope.Knows name ty → scope'.Knows name ty

/-- No name has a body that is still to be compiled, or is being compiled. -/
def Settled (scope : Scope) : Prop := ∀ layer ∈ scope, ∀ slot ∈ layer.slots, ∃ ty, slot.2 = .ready ty

/-- Layers inside of a given scope on the one side, and as many inside of any scope on the other. -/
inductive Beside (like : Slot → Slot → Prop) (base : Scope) : Nat → Scope → Scope → Prop where
  | outer {outer : Scope} : Beside like base 0 outer base
  | layer {n : Nat} {left right : Layer} {rest rest' : Scope} :
      Keyed.Aligned like left.slots right.slots → Beside like base n rest rest' →
      Beside like base (n + 1) (left :: rest) (right :: rest')

variable {like : Slot → Slot → Prop} {base scope scope' hidden outer : Scope} {layer : Layer}
  {n : Nat} {name : String} {ty : Ty} {events : List Event} {failed : Bool}

/-! ## What is known -/

theorem Promises.refl (scope : Scope) : scope.Promises scope := fun _ _ => id

theorem Promises.trans {middle : Scope} (first : scope.Promises middle)
    (second : middle.Promises scope') : scope.Promises scope' :=
  fun name ty known => second name ty (first name ty known)

theorem Knows.unique {ty' : Ty} (left : scope.Knows name ty) (right : scope.Knows name ty') :
    ty = ty' := by
  obtain ⟨level, block, found⟩ := left
  obtain ⟨level', block', found'⟩ := right
  cases found.symm.trans found'
  rfl

/-- What is known goes on to be known while bodies are compiled. -/
theorem Settles.promises (settled : Scope.Settles failed events scope scope') :
    scope.Promises scope' := by
  rintro name ty ⟨level, block, found⟩
  exact ⟨level, block, settled.ready found⟩

/-- Where everything is settled nothing can change. -/
theorem Settles.eq_of_settled (changed : Scope.Settles failed events scope scope')
    (settled : scope.Settled) : scope' = scope := by
  induction changed with
  | nil => rfl
  | @cons left right rest rest' head tail ih =>
    obtain ⟨here, others⟩ := List.forall_mem_cons.mp settled
    rw [ih others]
    have slots : right.slots = left.slots := by
      have aligned := head.slots
      generalize left.slots = xs, right.slots = ys at here aligned
      induction aligned with
      | nil => rfl
      | @cons x y xs ys related _ ih =>
        obtain ⟨⟨ty, ready⟩, rest⟩ := List.forall_mem_cons.mp here
        obtain ⟨key, moved⟩ := related
        rw [ready] at moved
        have value : y.2 = .ready ty := by
          generalize y.2 = slot at moved
          cases moved
          rfl
        rw [ih rest, Prod.ext key.symm (value.trans ready.symm)]
    have same : right = left := by
      obtain ⟨number, slots'⟩ := right
      obtain ⟨number', slots''⟩ := left
      have agree := head.number
      simp only at agree slots
      rw [agree, slots]
    rw [same]

theorem knows_append (shadowless : ∀ inner ∈ hidden, inner.slots.lookup name = none) :
    Knows (hidden ++ outer) name ty ↔ outer.Knows name ty := by
  simp only [Knows, find?_append shadowless]

theorem find?_cons_of_lookup {slot : Slot} (found : layer.slots.lookup name = some slot) :
    find? (layer :: outer) name = some ⟨outer.length, layer.number, slot⟩ := by
  unfold find?
  rw [show layer.find? name = some slot from found]

theorem knows_cons_of_lookup (found : layer.slots.lookup name = some (.ready ty)) :
    Knows (layer :: outer) name ty :=
  ⟨_, _, find?_cons_of_lookup found⟩

/-- A slot that is set makes a difference for its own name only. -/
theorem find?_set_of_ne {other : String} (differ : other ≠ name) (slot : Slot) :
    find? (layer.set name slot :: outer) other = find? (layer :: outer) other := by
  unfold find?
  rw [show (layer.set name slot).find? other = layer.find? other from
    Keyed.lookup_insert_of_ne differ _ _]
  rfl

/-- What is known beside a slot without a type stays known whatever the slot becomes. -/
theorem promises_set {slot slot' : Slot} (found : layer.slots.lookup name = some slot)
    (unready : ∀ ty, slot ≠ .ready ty) :
    Promises (layer :: outer) (layer.set name slot' :: outer) := by
  rintro other known ⟨level, block, stands⟩
  by_cases same : other = name
  · subst same
    rw [find?_cons_of_lookup found] at stands
    cases stands
    exact (unready _ rfl).elim
  · exact ⟨level, block, (find?_set_of_ne same _).trans stands⟩

/-! ## What is known beforehand -/

section Registry

variable {registry : Registry}

@[simp] theorem find?_ofRegistry :
    (ofRegistry registry).find? name = (registry.get? name).map fun ty => ⟨0, 0, .ready ty⟩ := by
  cases known : registry.get? name with
  | none =>
    have absent : registry.entries.lookup name = none := known
    simp [ofRegistry, Scope.find?, Layer.find?, Keyed.lookup_map, absent]
  | some ty =>
    have present : registry.entries.lookup name = some ty := known
    simp [ofRegistry, Scope.find?, Layer.find?, Keyed.lookup_map, present]

theorem knows_ofRegistry : (ofRegistry registry).Knows name ty ↔ registry.get? name = some ty := by
  simp only [Knows, find?_ofRegistry, Option.map_eq_some_iff]
  constructor
  · rintro ⟨level, block, type, known, same⟩
    cases same
    exact known
  · exact fun known => ⟨0, 0, ty, known, rfl⟩

theorem settled_ofRegistry (registry : Registry) : (ofRegistry registry).Settled := by
  intro layer member slot inside
  cases List.mem_singleton.mp member
  obtain ⟨entry, -, rfl⟩ := List.mem_map.mp inside
  exact ⟨_, rfl⟩

end Registry

/-! ## A name on both sides -/

namespace Beside

theorem eq_base (beside : Beside like base 0 scope scope') : scope' = base := by
  cases beside
  rfl

theorem leaving (beside : Beside like base (n + 1) scope scope') :
    Beside like base n (scope.drop 1) (scope'.drop 1) := by
  cases beside with
  | layer _ outside => exact outside

/-- A name that one of the inner layers has, on both sides. -/
structure Inside (like : Slot → Slot → Prop) (base : Scope) (n : Nat) (scope scope' : Scope)
    (name : String) where
  hidden : Scope
  hidden' : Scope
  layer : Layer
  layer' : Layer
  outer : Scope
  outer' : Scope
  slot : Slot
  slot' : Slot
  count : Nat
  parts : scope = hidden ++ layer :: outer
  parts' : scope' = hidden' ++ layer' :: outer'
  shadowless : ∀ inner ∈ hidden, inner.slots.lookup name = none
  shadowless' : ∀ inner ∈ hidden', inner.slots.lookup name = none
  found : layer.slots.lookup name = some slot
  found' : layer'.slots.lookup name = some slot'
  related : like slot slot'
  aligned : Keyed.Aligned like layer.slots layer'.slots
  outside : Beside like base count outer outer'
  drop : ∀ inner, (hidden ++ inner).drop n = inner.drop (count + 1)
  back : ∀ inner inner', Beside like base (count + 1) inner inner' →
    Beside like base n (hidden ++ inner) (hidden' ++ inner')

/-- A name that no inner layer has. -/
structure Outside (like : Slot → Slot → Prop) (base : Scope) (n : Nat) (scope scope' : Scope)
    (name : String) where
  inner : Scope
  inner' : Scope
  outer : Scope
  parts : scope = inner ++ outer
  parts' : scope' = inner' ++ base
  shadowless : ∀ layer ∈ inner, layer.slots.lookup name = none
  shadowless' : ∀ layer ∈ inner', layer.slots.lookup name = none
  length : inner.length = n
  back : ∀ outer, Beside like base n (inner ++ outer) (inner' ++ base)

theorem search (beside : Beside like base n scope scope') (name : String) :
    Nonempty (Inside like base n scope scope' name) ∨
      Nonempty (Outside like base n scope scope' name) := by
  induction beside with
  | @outer outer =>
    exact .inr ⟨⟨[], [], outer, rfl, rfl, by simp, by simp, rfl, fun _ => .outer⟩⟩
  | @layer n left right rest rest' aligned outside ih =>
    cases here : left.slots.lookup name with
    | some slot =>
      obtain ⟨slot', there, related⟩ := aligned.lookup here
      exact .inl ⟨⟨[], [], left, right, rest, rest', slot, slot', n, rfl, rfl, by simp, by simp,
        here, there, related, aligned, outside, fun _ => rfl, fun _ _ => id⟩⟩
    | none =>
      have there := aligned.lookup_none here
      rcases ih with inside | missing
      · obtain ⟨found⟩ := inside
        refine .inl ⟨{ found with
          hidden := left :: found.hidden
          hidden' := right :: found.hidden'
          parts := congrArg (left :: ·) found.parts
          parts' := congrArg (right :: ·) found.parts'
          shadowless := List.forall_mem_cons.mpr ⟨here, found.shadowless⟩
          shadowless' := List.forall_mem_cons.mpr ⟨there, found.shadowless'⟩
          drop := fun inner => found.drop inner
          back := fun inner inner' beside => .layer aligned (found.back inner inner' beside) }⟩
      · obtain ⟨missing⟩ := missing
        refine .inr ⟨{ missing with
          inner := left :: missing.inner
          inner' := right :: missing.inner'
          parts := congrArg (left :: ·) missing.parts
          parts' := congrArg (right :: ·) missing.parts'
          shadowless := List.forall_mem_cons.mpr ⟨here, missing.shadowless⟩
          shadowless' := List.forall_mem_cons.mpr ⟨there, missing.shadowless'⟩
          length := by rw [List.length_cons, missing.length]
          back := fun outer => .layer aligned (missing.back outer) }⟩

namespace Inside

variable (at' : Inside like base n scope scope' name)

include at'

theorem find? : scope.find? name = some ⟨at'.outer.length, at'.layer.number, at'.slot⟩ := by
  have whole := congrArg (Scope.find? · name) at'.parts
  exact whole.trans ((find?_append at'.shadowless).trans (find?_cons_of_lookup at'.found))

theorem find?' : scope'.find? name = some ⟨at'.outer'.length, at'.layer'.number, at'.slot'⟩ := by
  have whole := congrArg (Scope.find? · name) at'.parts'
  exact whole.trans ((find?_append at'.shadowless').trans (find?_cons_of_lookup at'.found'))

/-- Slots that are alike may take the place of those that are found. -/
theorem set {slot slot' : Slot} (related : like slot slot') : Beside like base (at'.count + 1)
    (at'.layer.set name slot :: at'.outer) (at'.layer'.set name slot' :: at'.outer') :=
  .layer (at'.aligned.insert related) at'.outside

end Inside

theorem Outside.find? (at' : Outside like base n scope scope' name) :
    scope.find? name = at'.outer.find? name :=
  (congrArg (Scope.find? · name) at'.parts).trans (find?_append at'.shadowless)

theorem Outside.find?' (at' : Outside like base n scope scope' name) :
    scope'.find? name = base.find? name :=
  (congrArg (Scope.find? · name) at'.parts').trans (find?_append at'.shadowless')

theorem Outside.drop (at' : Outside like base n scope scope' name) :
    scope.drop n = at'.outer :=
  (congrArg (List.drop n) at'.parts).trans (List.drop_left' at'.length)

/-- Blocks of matching definitions come into scope on both sides. -/
theorem entering {state state' : State} {position position' : Position}
    {entries entries' : List Definitions.Entry} {related : Json → Json → Prop}
    (same : List.Forall₂ (Definitions.Entry.Matching related) entries entries')
    (declared : ∀ {entry entry' : Definitions.Entry}, entry.Matching related entry' →
      like (Definitions.declare position entry) (Definitions.declare position' entry'))
    (beside : Beside like base n state.scope state'.scope) :
    Beside like base (n + 1) (state.entering (Definitions.slots position entries)).scope
      (state'.entering (Definitions.slots position' entries')).scope := by
  refine .layer (Keyed.Aligned.insertAll .nil ?_) beside
  refine List.forall₂_map_left_iff.mpr (List.forall₂_map_right_iff.mpr ?_)
  exact same.imp fun _ _ matching => ⟨matching.name.symm, declared matching⟩

end Beside

end Scope

/-! ## Bodies that are compiled on demand -/

namespace Definitions

/-- The state behind a body that was compiled on demand. -/
theorem demand_after {compile : NodeCompiler} {name : String} (definition : Definition)
    {state middle : State} {hidden outer : Scope} {layer : Layer} {ty : Ty}
    (restores : compile.Restores) (parts : state.scope = hidden ++ layer :: outer)
    (compiled : compile definition.node (demanding state name definition layer outer) =
      (.ok ty, middle)) :
    ∃ inner rest, middle.scope = inner :: rest ∧
      demand compile outer.length name definition state = (.ok ty, { middle with
        position := state.position, scope := hidden ++ inner.set name (.ready ty) :: rest }) := by
  have ran := demand_of_ok parts compiled
  obtain ⟨middle', inner, rest, compiled', same, -, -, ended⟩ := demand_ok restores parts ran
  rw [compiled] at compiled'
  cases compiled'
  exact ⟨inner, rest, same, by rw [ran, ended]⟩

/-- When a body of an inner layer compiles on both sides, the layers are still beside each other
after it was demanded, and those outside are as the compilation left them. -/
theorem demand_beside {like : Slot → Slot → Prop} {base : Scope} {n : Nat} {name : String} {ty : Ty}
    {compile compile' : NodeCompiler} {state state' middle middle' : State}
    {left right : Definition} (restores : compile.Restores) (restores' : compile'.Restores)
    (found : Scope.Beside.Inside like base n state.scope state'.scope name)
    (ready : like (.ready ty) (.ready ty))
    (compiled : compile left.node (demanding state name left found.layer found.outer) =
      (.ok ty, middle))
    (compiled' : compile' right.node (demanding state' name right found.layer' found.outer') =
      (.ok ty, middle'))
    (beside : Scope.Beside like base (found.count + 1) middle.scope middle'.scope) :
    ∃ scope scope', Scope.Beside like base n scope scope' ∧
      scope.drop n = middle.scope.drop (found.count + 1) ∧
      demand compile found.outer.length name left state =
        (.ok ty, { middle with position := state.position, scope }) ∧
      demand compile' found.outer'.length name right state' =
        (.ok ty, { middle' with position := state'.position, scope := scope' }) := by
  obtain ⟨inner, rest, same, demanded⟩ := demand_after left restores found.parts compiled
  obtain ⟨inner', rest', same', demanded'⟩ := demand_after right restores' found.parts' compiled'
  rw [same, same'] at beside
  cases beside with
  | layer aligned outside =>
    have filled : Scope.Beside like base (found.count + 1) (inner.set name (.ready ty) :: rest)
        (inner'.set name (.ready ty) :: rest') := .layer (aligned.insert ready) outside
    refine ⟨_, _, found.back _ _ filled, ?_, demanded, demanded'⟩
    rw [found.drop, same]
    rfl

end Definitions

/-! ## References to other documents -/

namespace Reference

variable {loader : Loader} {compile : NodeCompiler} {reference : String} {state after : State}

/-- The location that a reference names from where a compilation stands. -/
def target (reference : String) (state : State) : Location :=
  Location.resolve (split reference).1 state.position.document

/-- The state in which a document is compiled. -/
def entered (loader : Loader) (location : Location) (state : State) : State :=
  { state with
    position := ⟨some location, []⟩
    opened := location.key :: state.opened
    journal := .opening location loader.announces :: state.journal }

/-- The state when a document is done. -/
def left (state inner : State) : State :=
  { inner with position := state.position, opened := inner.opened.drop 1 }

/-- The state in which a document was asked for. -/
def asked (loader : Loader) (location : Location) (state : State) : State :=
  { state with journal := .opening location loader.announces :: state.journal }

theorem load_of_ok {location : Location} {document : Json}
    (loaded : loader.load location = .ok document) :
    load loader location state = (.ok document, asked loader location state) := by
  unfold load
  rw [loaded]
  rfl

theorem load_of_error {location : Location} {error : LoadError}
    (failed : loader.load location = .error error) :
    load loader location state = (.error (.load error), asked loader location state) := by
  unfold load
  rw [failed]
  rfl

theorem opening_within (location : Location) (body : Compile Ty) (state : State) :
    Compile.opening location (Compile.within ⟨some location, []⟩ body)
        (asked loader location state) =
      ((body (entered loader location state)).1,
        left state (body (entered loader location state)).2) := rfl

theorem external_of_open (cyclic : (target reference state).key ∈ state.opened) :
    external loader compile reference state =
      (.error (.cyclicReference reference state.position), state) := by
  have listed : state.opened.contains (target reference state).key = true := by simpa using cyclic
  unfold target at listed
  simp only [external, Compile.read_bind, listed, if_true]
  rfl

/-- A document that is not open is asked for, and compiled if there is one. -/
theorem external_of_closed (closed : (target reference state).key ∉ state.opened) :
    external loader compile reference state = (do
      let loaded ← load loader (target reference state)
      Compile.opening (target reference state)
        (Compile.within ⟨some (target reference state), []⟩
          (document compile reference (split reference).2 loaded)) : Compile Ty) state := by
  have unlisted : state.opened.contains (target reference state).key = false := by simpa using closed
  unfold target at unlisted ⊢
  simp only [external, Compile.read_bind, unlisted, Bool.false_eq_true, if_false]

theorem external_of_failed {error : LoadError}
    (closed : (target reference state).key ∉ state.opened)
    (failed : loader.load (target reference state) = .error error) :
    external loader compile reference state =
      (.error (.load error), asked loader (target reference state) state) := by
  rw [external_of_closed closed]
  exact Compile.bind_of_error (load_of_error failed)

theorem external_of_loaded {document : Json}
    (closed : (target reference state).key ∉ state.opened)
    (loaded : loader.load (target reference state) = .ok document) :
    external loader compile reference state =
      let ended := Reference.document compile reference (split reference).2 document
        (entered loader (target reference state) state)
      (ended.1, left state ended.2) := by
  rw [external_of_closed closed, Compile.bind_of_ok (load_of_ok loaded)]
  exact opening_within _ _ state

/-- A good end of an external reference: the document was loaded and compiled. -/
theorem external_ok {ty : Ty} (ran : external loader compile reference state = (.ok ty, after)) :
    (target reference state).key ∉ state.opened ∧ ∃ document inner,
      loader.load (target reference state) = .ok document ∧
      Reference.document compile reference (split reference).2 document
        (entered loader (target reference state) state) = (.ok ty, inner) ∧
      after = left state inner := by
  by_cases cyclic : (target reference state).key ∈ state.opened
  · rw [external_of_open cyclic] at ran
    cases ran
  · cases loaded : loader.load (target reference state) with
    | error error =>
      rw [external_of_failed cyclic loaded] at ran
      cases ran
    | ok document =>
      rw [external_of_loaded cyclic loaded] at ran
      cases ended : Reference.document compile reference (split reference).2 document
        (entered loader (target reference state) state) with
      | mk outcome inner =>
        rw [ended] at ran
        cases ran
        exact ⟨cyclic, document, inner, rfl, ended, rfl⟩

end Reference

namespace Compilation

variable {loader : Loader} {bound : Json → Nat} {location : Location} {state : State}

/-- The location of a schema is opened like that of any other document. -/
theorem startWithin_location {root : Json} (loaded : loader.load location = .ok root) :
    startWithin loader bound (.location location) state =
      let ended := Node.compile loader (bound root) root (Reference.entered loader location state)
      (ended.1, Reference.left state ended.2) :=
  Compile.bind_of_ok (Reference.load_of_ok loaded)

theorem startWithin_unloaded {error : LoadError} (failed : loader.load location = .error error) :
    startWithin loader bound (.location location) state =
      (.error (.load error), Reference.asked loader location state) :=
  Compile.bind_of_error (Reference.load_of_error failed)

end Compilation

end SchemaTypes
