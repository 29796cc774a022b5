import SchemaTypes.Schema.Compile

/-! What a sequence of computations does, and good ends taken apart at their first step. -/
namespace SchemaTypes

theorem Except.ok_of_bind {ε α β : Type} {outcome : Except ε α} {next : α → Except ε β} {b : β}
    (ended : outcome >>= next = .ok b) : ∃ a, outcome = .ok a ∧ next a = .ok b := by
  cases outcome with
  | error error => cases ended
  | ok a => exact ⟨a, rfl, ended⟩

theorem Except.error_of_bind {ε α β : Type} {outcome : Except ε α} {next : α → Except ε β}
    {error : ε} (ended : outcome >>= next = .error error) :
    outcome = .error error ∨ ∃ a, outcome = .ok a ∧ next a = .error error := by
  cases outcome with
  | error first =>
    cases ended
    exact .inl rfl
  | ok a => exact .inr ⟨a, rfl, ended⟩

namespace Compile

variable {α β : Type} {state after : State} {a : α} {b : β} {body : Compile α}

theorem bind_of_ok {next : α → Compile β} (ran : body state = (.ok a, after)) :
    (body >>= next) state = next a after := by
  change andThen body next state = _
  simp only [andThen, ran]

theorem bind_of_error {next : α → Compile β} {error : CompileError}
    (ran : body state = (.error error, after)) :
    (body >>= next) state = (.error error, after) := by
  change andThen body next state = _
  simp only [andThen, ran]

theorem ok_of_fst (ended : (body state).1 = .ok a) : ∃ after, body state = (.ok a, after) :=
  ⟨_, Prod.ext ended rfl⟩

@[simp] theorem read_bind {look : State → α} {next : α → Compile β} :
    (read look >>= next) state = next (look state) state := rfl

theorem bind_ok {next : α → Compile β} (ran : (body >>= next) state = (.ok b, after)) :
    ∃ a middle, body state = (.ok a, middle) ∧ next a middle = (.ok b, after) := by
  change andThen body next state = _ at ran
  unfold andThen at ran
  split at ran
  · next value middle first => exact ⟨value, middle, first, ran⟩
  · cases ran

/-- A sequence ends as its first computation when that fails, or else as what comes next. -/
theorem bind_ends (body : Compile α) (next : α → Compile β) (state : State) :
    (∃ error middle, body state = (.error error, middle) ∧
        (body >>= next) state = (.error error, middle)) ∨
      ∃ a middle, body state = (.ok a, middle) ∧ (body >>= next) state = next a middle := by
  cases ended : body state with
  | mk outcome middle =>
    cases outcome with
    | error error => exact .inl ⟨error, middle, rfl, bind_of_error ended⟩
    | ok a => exact .inr ⟨a, middle, rfl, bind_of_ok ended⟩

theorem bind_error {next : α → Compile β} {error : CompileError}
    (ran : (body >>= next) state = (.error error, after)) :
    body state = (.error error, after) ∨
      ∃ a middle, body state = (.ok a, middle) ∧ next a middle = (.error error, after) := by
  rcases bind_ends body next state with ⟨early, middle, ended, whole⟩ | ⟨a, middle, ended, whole⟩
  · cases whole.symm.trans ran
    exact .inl ended
  · exact .inr ⟨a, middle, ended, whole.symm.trans ran⟩

theorem ofExcept_ok {outcome : Except Fault α} (ran : ofExcept outcome state = (.ok a, after)) :
    outcome = .ok a ∧ after = state := by
  cases outcome with
  | error fault => cases ran
  | ok value =>
    cases ran
    exact ⟨rfl, rfl⟩

theorem under_ok {segments : List String} (ran : under segments body state = (.ok a, after)) :
    ∃ inner, body { state with position.path := state.position.path ++ segments } = (.ok a, inner) ∧
      after = { inner with
        position.path := inner.position.path.take state.position.path.length } := by
  obtain ⟨ends, rfl⟩ := Prod.mk.inj ran
  exact ⟨_, Prod.ext ends rfl, rfl⟩

theorem within_ok {position : Position} (ran : within position body state = (.ok a, after)) :
    ∃ inner, body { state with position } = (.ok a, inner) ∧
      after = { inner with position := state.position } := by
  obtain ⟨ends, rfl⟩ := Prod.mk.inj ran
  exact ⟨_, Prod.ext ends rfl, rfl⟩

theorem opening_ok {location : Location} (ran : opening location body state = (.ok a, after)) :
    ∃ inner, body { state with opened := location.key :: state.opened } = (.ok a, inner) ∧
      after = { inner with opened := inner.opened.drop 1 } := by
  obtain ⟨ends, rfl⟩ := Prod.mk.inj ran
  exact ⟨_, Prod.ext ends rfl, rfl⟩

theorem withLayer_ok {slots : List (String × Slot)}
    (ran : withLayer slots body state = (.ok a, after)) :
    ∃ inner, body (state.entering slots) = (.ok a, inner) ∧
      after = { inner with scope := inner.scope.drop 1 } := by
  obtain ⟨ends, rfl⟩ := Prod.mk.inj ran
  exact ⟨_, Prod.ext ends rfl, rfl⟩

/-! ## What good ends give -/

/-- From scopes of one kind, a computation that ends well gives what is right, and a scope of the
same kind. -/
def Gives (kept : Scope → Prop) (right : α → Prop) (body : Compile α) : Prop :=
  ∀ state a after, kept state.scope → body state = (.ok a, after) → right a ∧ kept after.scope

namespace Gives

variable {kept : Scope → Prop} {right : α → Prop} {right' : β → Prop}

theorem pure (fits : right a) : (Pure.pure a : Compile α).Gives kept right := by
  intro state value after start ran
  cases ran
  exact ⟨fits, start⟩

theorem raise (error : CompileError) : (Compile.raise error : Compile α).Gives kept right := by
  rintro _ _ _ _ ⟨⟩

theorem fail (fault : Fault) : (Compile.fail fault : Compile α).Gives kept right := by
  rintro _ _ _ _ ⟨⟩

theorem ofExcept {outcome : Except Fault α} (fits : ∀ a, outcome = .ok a → right a) :
    (Compile.ofExcept outcome).Gives kept right := by
  intro state value after start ran
  obtain ⟨ended, rfl⟩ := ofExcept_ok ran
  exact ⟨fits value ended, start⟩

theorem note (event : Position → Event) : (Compile.note event).Gives kept fun _ => True := by
  intro state value after start ran
  cases ran
  exact ⟨trivial, start⟩

theorem read (look : State → α) : (Compile.read look).Gives kept fun _ => True := by
  intro state value after start ran
  cases ran
  exact ⟨trivial, start⟩

theorem bind {next : α → Compile β} (first : body.Gives kept right)
    (rest : ∀ a, right a → (next a).Gives kept right') : (body >>= next).Gives kept right' := by
  intro state value after start ran
  obtain ⟨a, middle, firstRan, nextRan⟩ := bind_ok ran
  obtain ⟨fits, keeps⟩ := first state a middle start firstRan
  exact rest a fits middle value after keeps nextRan

theorem imp {right' : α → Prop} (gives : body.Gives kept right) (weaker : ∀ a, right a → right' a) :
    body.Gives kept right' := by
  intro state value after start ran
  obtain ⟨fits, keeps⟩ := gives state value after start ran
  exact ⟨weaker value fits, keeps⟩

theorem under (segments : List String) (inside : body.Gives kept right) :
    (Compile.under segments body).Gives kept right := by
  intro state value after start ran
  obtain ⟨inner, ended, rfl⟩ := under_ok ran
  exact inside { state with position.path := state.position.path ++ segments } value inner start
    ended

theorem within (position : Position) (inside : body.Gives kept right) :
    (Compile.within position body).Gives kept right := by
  intro state value after start ran
  obtain ⟨inner, ended, rfl⟩ := within_ok ran
  exact inside { state with position } value inner start ended

theorem opening (location : Location) (inside : body.Gives kept right) :
    (Compile.opening location body).Gives kept right := by
  intro state value after start ran
  obtain ⟨inner, ended, rfl⟩ := opening_ok ran
  exact inside { state with opened := location.key :: state.opened } value inner start ended

end Gives

end Compile

end SchemaTypes
