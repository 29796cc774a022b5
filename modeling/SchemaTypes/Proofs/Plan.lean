import SchemaTypes.Proofs.Compile
import SchemaTypes.Schema.Plan

/-! Two readings of a plan that leave the state out: what it can give when the visited nodes have
certain types, and which nodes it can visit. -/
namespace SchemaTypes.Plan

variable {α β : Type}

/-- What a plan can give when each visited node gets a type that is judged right for it. -/
def Yields (judged : Json → Ty → Prop) : {α : Type} → Plan α → α → Prop
  | _, .done a, b => b = a
  | _, .fail _, _ => False
  | _, .note _, _ => True
  | _, .visit node, ty => judged node ty
  | _, .under _ plan, b => plan.Yields judged b
  | _, .andThen first next, b => ∃ a, first.Yields judged a ∧ (next a).Yields judged b

/-- A result that a plan has for some types of the visited nodes. -/
def CanGive (plan : Plan α) (a : α) : Prop := plan.Yields (fun _ _ => True) a

/-- All nodes that a plan can visit are allowed, each at its path below the current position. -/
def Visits (allowed : List String → Json → Prop) : {α : Type} → Plan α → Prop
  | _, .done _ => True
  | _, .fail _ => True
  | _, .note _ => True
  | _, .visit node => allowed [] node
  | _, .under segments plan => plan.Visits fun path => allowed (segments ++ path)
  | _, .andThen first next =>
    first.Visits allowed ∧ ∀ a, first.CanGive a → (next a).Visits allowed

variable {judged judged' : Json → Ty → Prop} {allowed allowed' : List String → Json → Prop}

@[simp] theorem yields_pure {a b : α} : (pure a : Plan α).Yields judged b ↔ b = a := Iff.rfl

@[simp] theorem yields_bind {first : Plan α} {next : α → Plan β} {b : β} :
    (first >>= next).Yields judged b ↔
      ∃ a, first.Yields judged a ∧ (next a).Yields judged b := Iff.rfl

@[simp] theorem yields_visit {node : Json} {ty : Ty} :
    (visit node).Yields judged ty ↔ judged node ty := Iff.rfl

@[simp] theorem yields_under {segments : List String} {plan : Plan α} {a : α} :
    (under segments plan).Yields judged a ↔ plan.Yields judged a := Iff.rfl

@[simp] theorem yields_fail {fault : Fault} {a : α} :
    (fail fault : Plan α).Yields judged a ↔ False := Iff.rfl

@[simp] theorem yields_ofExcept {outcome : Except Fault α} {a : α} :
    (ofExcept outcome).Yields judged a ↔ outcome = .ok a := by
  cases outcome with
  | error fault => simp [ofExcept]
  | ok value => simp [ofExcept, Yields, eq_comm]

theorem visits_ofExcept {outcome : Except Fault α} : (ofExcept outcome).Visits allowed := by
  cases outcome <;> trivial

theorem Yields.imp {plan : Plan α} {a : α} (given : plan.Yields judged a)
    (weaker : ∀ node ty, judged node ty → judged' node ty) : plan.Yields judged' a := by
  induction plan with
  | done | note => exact given
  | fail => exact given.elim
  | visit node => exact weaker _ _ given
  | under segments plan ih => exact ih given
  | andThen first next firstIH nextIH =>
    obtain ⟨middle, first, next⟩ := given
    exact ⟨middle, firstIH first, nextIH middle next⟩

theorem Yields.canGive {plan : Plan α} {a : α} (given : plan.Yields judged a) : plan.CanGive a :=
  given.imp fun _ _ _ => trivial

/-- Where a node has one type on both sides, a plan can give one thing only. -/
theorem Yields.unique {plan : Plan α} {a b : α} (left : plan.Yields judged a)
    (right : plan.Yields judged' b)
    (unique : ∀ node ty ty', judged node ty → judged' node ty' → ty = ty') : a = b := by
  induction plan with
  | done => exact left.trans right.symm
  | note => rfl
  | fail => exact left.elim
  | visit node => exact unique _ _ _ left right
  | under segments plan ih => exact ih left right
  | andThen first next firstIH nextIH =>
    obtain ⟨middle, first, next⟩ := left
    obtain ⟨middle', first', next'⟩ := right
    cases firstIH first first'
    exact nextIH middle next next'

/-- What a plan gives when nodes are judged at any stage it gives at some stage. -/
theorem Yields.bounded {judged : Nat → Json → Ty → Prop} {plan : Plan α} {a : α}
    (grows : ∀ {n m node ty}, n ≤ m → judged n node ty → judged m node ty)
    (given : plan.Yields (fun node ty => ∃ n, judged n node ty) a) :
    ∃ n, plan.Yields (judged n) a := by
  induction plan with
  | done | note => exact ⟨0, given⟩
  | fail => exact given.elim
  | visit node => exact given
  | under segments plan ih => exact ih given
  | andThen first next firstIH nextIH =>
    obtain ⟨middle, first, next⟩ := given
    obtain ⟨n, first⟩ := firstIH first
    obtain ⟨m, next⟩ := nextIH middle next
    exact ⟨max n m, middle, first.imp fun _ _ => grows (Nat.le_max_left n m),
      next.imp fun _ _ => grows (Nat.le_max_right n m)⟩

theorem Visits.imp {plan : Plan α} (visits : plan.Visits allowed)
    (weaker : ∀ path node, allowed path node → allowed' path node) : plan.Visits allowed' := by
  induction plan generalizing allowed allowed' with
  | done | fail | note => trivial
  | visit node => exact weaker _ _ visits
  | under segments plan ih => exact ih visits fun path => weaker (segments ++ path)
  | andThen first next firstIH nextIH =>
    exact ⟨firstIH visits.1 weaker, fun a given => nextIH a (visits.2 a given) weaker⟩

/-- What a plan comes to is something it can give. -/
theorem run_canGive {compile : NodeCompiler} {plan : Plan α} {state after : State} {a : α}
    (ran : plan.run compile state = (.ok a, after)) : plan.CanGive a := by
  induction plan generalizing state after with
  | done a =>
    cases ran
    exact rfl
  | fail fault => cases ran
  | note remark | visit node => exact trivial
  | under segments plan ih =>
    obtain ⟨inner, inside, -⟩ := Compile.under_ok ran
    exact ih inside
  | andThen first next firstIH nextIH =>
    obtain ⟨a, middle, firstRan, nextRan⟩ := Compile.bind_ok ran
    exact ⟨a, firstIH firstRan, nextIH a nextRan⟩

/-- A plan gives something it can give, provided that the compiler gives the visited nodes types
that are judged right. -/
theorem run_gives {compile : NodeCompiler} {admitted : Json → Prop} {kept : Scope → Prop}
    {plan : Plan α}
    (compiles : ∀ node, admitted node → (compile node).Gives kept (judged node))
    (visits : plan.Visits fun _ node => admitted node) :
    (plan.run compile).Gives kept (plan.Yields judged) := by
  induction plan with
  | done a => exact .pure rfl
  | fail fault => exact .fail fault
  | note remark => exact .note _
  | visit node => exact compiles node visits
  | under segments plan ih => exact (ih visits).under segments
  | andThen first next firstIH nextIH =>
    refine (firstIH visits.1).bind fun a given => ?_
    exact (nextIH a (visits.2 a given.canGive)).imp fun b gives => ⟨a, given, gives⟩

end SchemaTypes.Plan
