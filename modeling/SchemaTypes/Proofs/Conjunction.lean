import SchemaTypes.Proofs.Equality
import SchemaTypes.Proofs.WellFormed

/-! Merging is conjunction: a merged record accepts what every one of its members accepts, and
limits that cannot be merged leave nothing to accept. -/
namespace SchemaTypes

/-- What stands under each name: nothing, or a length and a value. -/
abbrev Assignment := String → Option (Nat × Json)

def Assignment.Distinct (given : Assignment) : Prop :=
  ∀ name length value, given name = some (length, value) → value.Distinct

/-- A value is equal to one that is listed. -/
def Json.Among (value : Json) (values : List Json) : Prop :=
  ∃ listed ∈ values, value.same listed = true

namespace Constraints

structure Admits (limits : Constraints) (length : Nat) (value : Json) : Prop where
  min : ∀ min ∈ limits.minLength, min ≤ length
  max : ∀ max ∈ limits.maxLength, length ≤ max
  allowed : ∀ values ∈ limits.allowed, value.Among values

def Distinct (limits : Constraints) : Prop :=
  ∀ values ∈ limits.allowed, ∀ value ∈ values, value.Distinct

end Constraints

/-- A field that is required has to be there, and what is there has to keep to the limits. -/
def Field.Accepts (field : Field) : Option (Nat × Json) → Prop
  | none => field.required = false
  | some (length, value) => field.constraints.Admits length value

def Field.AllAccept (fields : List Field) (given : Assignment) : Prop :=
  ∀ field ∈ fields, field.Accepts (given field.name)

@[simp] theorem Field.allAccept_cons {field : Field} {rest : List Field} {given : Assignment} :
    AllAccept (field :: rest) given ↔ field.Accepts (given field.name) ∧ AllAccept rest given :=
  List.forall_mem_cons

@[simp] theorem Field.allAccept_append {fields added : List Field} {given : Assignment} :
    AllAccept (fields ++ added) given ↔ AllAccept fields given ∧ AllAccept added given :=
  List.forall_mem_append

def Record.Accepts (record : Record) (given : Assignment) : Prop :=
  Field.AllAccept record.fields given

def Field.AllDistinct (fields : List Field) : Prop :=
  ∀ field ∈ fields, field.constraints.Distinct

def Record.Distinct (record : Record) : Prop := Field.AllDistinct record.fields

/-- A conflict of limits, not of types or defaults. -/
inductive Conflict.Reason.OfLimits : Conflict.Reason → Prop where
  | lengthWindow {min max : Nat} : OfLimits (.lengthWindow min max)
  | noCommonValue : OfLimits .noCommonValue

/-! ## Limits -/

namespace Constraints

variable {a b merged : Constraints} {left right : Option Nat} {length : Nat} {value : Json}

theorem mergeMin_le :
    (∀ min ∈ mergeMin left right, min ≤ length) ↔
      (∀ min ∈ left, min ≤ length) ∧ ∀ min ∈ right, min ≤ length := by
  cases left with
  | none => simp [mergeMin]
  | some left =>
    cases right with
    | none => simp [mergeMin]
    | some right =>
      simp only [mergeMin, Option.mem_some_iff, forall_eq']
      exact Nat.max_le

theorem le_mergeMax :
    (∀ max ∈ mergeMax left right, length ≤ max) ↔
      (∀ max ∈ left, length ≤ max) ∧ ∀ max ∈ right, length ≤ max := by
  cases left with
  | none => simp [mergeMax]
  | some left =>
    cases right with
    | none => simp [mergeMax]
    | some right =>
      simp only [mergeMax, Option.mem_some_iff, forall_eq']
      exact Nat.le_min

theorem among_common {left right : List Json} (distinct : ∀ value ∈ left, value.Distinct)
    (given : value.Distinct) :
    value.Among (common left right) ↔ value.Among left ∧ value.Among right := by
  simp only [Json.Among, common, List.mem_filter, List.any_eq_true]
  constructor
  · rintro ⟨listed, ⟨first, other, second, alike⟩, same⟩
    exact ⟨⟨listed, first, same⟩, other, second, Json.same_trans given same alike⟩
  · rintro ⟨⟨listed, first, same⟩, other, second, same'⟩
    have back := Json.same_symm given (distinct listed first) same
    exact ⟨listed, ⟨first, other, second, Json.same_trans (distinct listed first) back same'⟩, same⟩

theorem mergeAllowed_among {left right joint : Option (List Json)}
    (distinct : ∀ values ∈ left, ∀ value ∈ values, value.Distinct) (given : value.Distinct)
    (joined : mergeAllowed left right = .ok joint) :
    (∀ values ∈ joint, value.Among values) ↔
      (∀ values ∈ left, value.Among values) ∧ ∀ values ∈ right, value.Among values := by
  cases left with
  | none =>
    cases joined
    simp
  | some first =>
    cases right with
    | none =>
      cases joined
      simp
    | some second =>
      simp only [mergeAllowed] at joined
      split at joined <;> cases joined
      simpa using among_common (distinct first rfl) given

theorem merge_admits (distinct : a.Distinct) (given : value.Distinct)
    (joined : a.merge b = .ok merged) :
    merged.Admits length value ↔ a.Admits length value ∧ b.Admits length value := by
  obtain ⟨lower, upper, -, common⟩ := merge_iff.mp joined
  have values := mergeAllowed_among distinct given common
  constructor
  · rintro ⟨min, max, among⟩
    rw [lower] at min
    rw [upper] at max
    obtain ⟨min, min'⟩ := mergeMin_le.mp min
    obtain ⟨max, max'⟩ := le_mergeMax.mp max
    obtain ⟨among, among'⟩ := values.mp among
    exact ⟨⟨min, max, among⟩, ⟨min', max', among'⟩⟩
  · rintro ⟨left, right⟩
    refine ⟨?_, ?_, values.mpr ⟨left.allowed, right.allowed⟩⟩
    · rw [lower]
      exact mergeMin_le.mpr ⟨left.min, right.min⟩
    · rw [upper]
      exact le_mergeMax.mpr ⟨left.max, right.max⟩

theorem mergeAllowed_distinct {left right joint : Option (List Json)}
    (first : ∀ values ∈ left, ∀ value ∈ values, value.Distinct)
    (second : ∀ values ∈ right, ∀ value ∈ values, value.Distinct)
    (joined : mergeAllowed left right = .ok joint) :
    ∀ values ∈ joint, ∀ value ∈ values, value.Distinct := by
  cases left with
  | none =>
    cases joined
    simpa using second
  | some values =>
    cases right with
    | none =>
      cases joined
      simpa using first
    | some others =>
      simp only [mergeAllowed] at joined
      split at joined <;> cases joined
      rintro _ ⟨⟩ value member
      exact first values rfl value (List.mem_of_mem_filter member)

theorem merge_distinct (left : a.Distinct) (right : b.Distinct) (joined : a.merge b = .ok merged) :
    merged.Distinct :=
  mergeAllowed_distinct left right (merge_iff.mp joined).2.2.2

theorem checkWindow_error {reason : Conflict.Reason}
    (failed : checkWindow left right = .error reason) :
    ∃ min max, left = some min ∧ right = some max ∧ max < min := by
  unfold checkWindow at failed
  split at failed
  · split at failed
    · next less => exact ⟨_, _, rfl, rfl, less⟩
    · cases failed
  · cases failed

theorem mergeAllowed_error {left right : Option (List Json)} {reason : Conflict.Reason}
    (failed : mergeAllowed left right = .error reason) :
    ∃ first second, left = some first ∧ right = some second ∧ common first second = [] := by
  unfold mergeAllowed at failed
  split at failed
  · split at failed
    · next none => exact ⟨_, _, rfl, rfl, List.isEmpty_iff.mp none⟩
    · cases failed
  · cases failed

/-- Limits that cannot be merged admit nothing together. -/
theorem merge_refuses {reason : Conflict.Reason} (distinct : a.Distinct) (given : value.Distinct)
    (failed : a.merge b = .error reason) : ¬ (a.Admits length value ∧ b.Admits length value) := by
  rintro ⟨left, right⟩
  rcases Except.error_of_bind failed with window | ⟨_, -, failed⟩
  · obtain ⟨min, max, lower, upper, less⟩ := checkWindow_error window
    have above : min ≤ length := mergeMin_le.mpr ⟨left.min, right.min⟩ min lower
    have below : length ≤ max := le_mergeMax.mpr ⟨left.max, right.max⟩ max upper
    omega
  · rcases Except.error_of_bind failed with disjoint | ⟨_, -, failed⟩
    · obtain ⟨first, second, lists, lists', none⟩ := mergeAllowed_error disjoint
      have both := (among_common (distinct first lists) given).mpr
        ⟨left.allowed first lists, right.allowed second lists'⟩
      rw [none] at both
      obtain ⟨_, absent, -⟩ := both
      exact List.not_mem_nil absent
    · cases failed

end Constraints

/-! ## Fields -/

namespace Field

variable {a b merged next : Field} {fields : List Field} {given : Assignment}

theorem merge_ok (joined : a.merge b = .ok merged) :
    merged.name = a.name ∧ merged.required = (a.required || b.required) ∧
      a.constraints.merge b.constraints = .ok merged.constraints := by
  obtain ⟨-, name, required, -, -, limits, -, -⟩ := merge_iff.mp joined
  exact ⟨name, required, limits⟩

theorem defaults_error {required : Bool} {left right : FieldDefault} {reason : Conflict.Reason}
    (failed : FieldDefault.merge required left right = .error reason) : ¬ reason.OfLimits := by
  unfold FieldDefault.merge at failed
  split at failed
  · split at failed <;> cases failed
    rintro ⟨⟩
  all_goals cases failed

theorem merge_error {reason : Conflict.Reason} (failed : a.merge b = .error reason)
    (limits : reason.OfLimits) : a.constraints.merge b.constraints = .error reason := by
  unfold Field.merge at failed
  split at failed
  · cases failed
    cases limits
  · rcases Except.error_of_bind failed with defaults | ⟨default, -, failed⟩
    · exact (defaults_error defaults limits).elim
    · rcases Except.error_of_bind failed with refused | ⟨constraints, -, failed⟩
      · exact refused
      · cases failed

theorem merge_accepts (distinct : a.constraints.Distinct) (values : given.Distinct)
    (joined : a.merge b = .ok merged) {name : String} :
    merged.Accepts (given name) ↔ a.Accepts (given name) ∧ b.Accepts (given name) := by
  obtain ⟨-, required, limits⟩ := merge_ok joined
  cases assigned : given name with
  | none => simp [Accepts, required]
  | some pair =>
    have value := values name pair.1 pair.2 assigned
    exact Constraints.merge_admits distinct value limits

theorem merge_refuses {reason : Conflict.Reason} (distinct : a.constraints.Distinct)
    (values : given.Distinct) (failed : a.merge b = .error reason) (limits : reason.OfLimits)
    {name : String} (present : (given name).isSome) :
    ¬ (a.Accepts (given name) ∧ b.Accepts (given name)) := by
  obtain ⟨pair, assigned⟩ := Option.isSome_iff_exists.mp present
  rw [assigned]
  have value := values name pair.1 pair.2 assigned
  exact Constraints.merge_refuses distinct value (merge_error failed limits)

end Field

namespace Record

variable {fields merged : List Field} {next : Field} {given : Assignment}

theorem mergeField_accepts (distinct : Field.AllDistinct fields) (values : given.Distinct)
    (joined : mergeField fields next = .ok merged) :
    Field.AllAccept merged given ↔
      Field.AllAccept fields given ∧ next.Accepts (given next.name) := by
  rcases mergeField_ok joined with
    ⟨-, rfl⟩ | ⟨before, field, after, both, rfl, -, same, merges, rfl⟩
  · rw [Field.allAccept_append]
    exact and_congr_right' List.forall_mem_singleton
  · have first := distinct field (List.mem_append_right _ List.mem_cons_self)
    have here : both.Accepts (given next.name) ↔
        field.Accepts (given next.name) ∧ next.Accepts (given next.name) :=
      Field.merge_accepts first values merges
    rw [Field.allAccept_append, Field.allAccept_append, Field.allAccept_cons, Field.allAccept_cons,
      (Field.merge_ok merges).1, same, here]
    tauto

theorem mergeField_distinct (before : Field.AllDistinct fields) (added : next.constraints.Distinct)
    (joined : mergeField fields next = .ok merged) : Field.AllDistinct merged := by
  rcases mergeField_ok joined with
    ⟨-, rfl⟩ | ⟨front, field, rest, both, rfl, -, -, merges, rfl⟩
  · exact List.forall_mem_append.mpr ⟨before, List.forall_mem_singleton.mpr added⟩
  · obtain ⟨earlier, here⟩ := List.forall_mem_append.mp before
    obtain ⟨first, later⟩ := List.forall_mem_cons.mp here
    have limits := Constraints.merge_distinct first added (Field.merge_ok merges).2.2
    exact List.forall_mem_append.mpr ⟨earlier, List.forall_mem_cons.mpr ⟨limits, later⟩⟩

theorem mergeField_error {conflict : Conflict} (failed : mergeField fields next = .error conflict) :
    conflict.field = next.name ∧
      ∃ field ∈ fields, field.name = next.name ∧ field.merge next = .error conflict.reason := by
  induction fields with
  | nil => cases failed
  | cons field rest ih =>
    unfold mergeField at failed
    split at failed
    · next same =>
      split at failed <;> cases failed
      next refused =>
      exact ⟨same, field, List.mem_cons_self, same, refused⟩
    · split at failed <;> cases failed
      next ended =>
      obtain ⟨name, other, member, same, refused⟩ := ih ended
      exact ⟨name, other, List.mem_cons_of_mem _ member, same, refused⟩

theorem mergeField_refuses {conflict : Conflict} (distinct : Field.AllDistinct fields)
    (values : given.Distinct) (failed : mergeField fields next = .error conflict)
    (limits : conflict.reason.OfLimits) (present : (given conflict.field).isSome) :
    ¬ (Field.AllAccept fields given ∧ next.Accepts (given next.name)) := by
  obtain ⟨name, field, member, same, refused⟩ := mergeField_error failed
  rintro ⟨accepted, right⟩
  have left := accepted field member
  rw [same] at left
  exact Field.merge_refuses (distinct field member) values refused limits (name ▸ present)
    ⟨left, right⟩

end Record

/-! ## Folds -/

section

variable {ε α σ : Type} {step : σ → α → Except ε σ} {items : List α} {first last : σ}

/-- A fold whose every step adds what one item demands comes to what all of them demand. -/
theorem Except.foldlM_iff {clean : σ → Prop} (holds : σ → Prop) (adds : α → Prop)
    (start : clean first)
    (joins : ∀ item ∈ items, ∀ before after, clean before → step before item = .ok after →
      clean after ∧ (holds after ↔ holds before ∧ adds item))
    (ended : items.foldlM step first = .ok last) :
    clean last ∧ (holds last ↔ holds first ∧ ∀ item ∈ items, adds item) := by
  induction items generalizing first with
  | nil =>
    cases ended
    simpa using start
  | cons item rest ih =>
    rw [List.foldlM_cons] at ended
    obtain ⟨middle, stepped, ended⟩ := Except.ok_of_bind ended
    obtain ⟨kept, joined⟩ := joins item List.mem_cons_self first middle start stepped
    obtain ⟨kept, sums⟩ :=
      ih kept (fun other member => joins other (List.mem_cons_of_mem _ member)) ended
    refine ⟨kept, ?_⟩
    rw [sums, joined, List.forall_mem_cons, and_assoc]

/-- A fold that fails does so at one of the items, behind a part that went well. -/
theorem Except.foldlM_error {error : ε} (failed : items.foldlM step first = .error error) :
    ∃ before item after middle, items = before ++ item :: after ∧
      before.foldlM step first = .ok middle ∧ step middle item = .error error := by
  induction items generalizing first with
  | nil => cases failed
  | cons item rest ih =>
    rw [List.foldlM_cons] at failed
    rcases Except.error_of_bind failed with here | ⟨middle, stepped, later⟩
    · exact ⟨[], item, rest, first, rfl, rfl, here⟩
    · obtain ⟨before, stop, after, reached, parts, well, here⟩ := ih later
      refine ⟨item :: before, stop, after, reached, by rw [parts]; rfl, ?_, here⟩
      rw [List.foldlM_cons, stepped]
      exact well

end

/-! ## Records -/

namespace Record

variable {a b merged first : Record} {rest : List Record} {given : Assignment}

theorem mergeFields_accepts {fields added joint : List Field} (left : Field.AllDistinct fields)
    (right : Field.AllDistinct added) (values : given.Distinct)
    (joined : added.foldlM mergeField fields = .ok joint) :
    Field.AllDistinct joint ∧
      (Field.AllAccept joint given ↔ Field.AllAccept fields given ∧ Field.AllAccept added given) := by
  refine Except.foldlM_iff (Field.AllAccept · given) (fun next => next.Accepts (given next.name))
    left (fun next member before after kept stepped => ?_) joined
  exact ⟨mergeField_distinct kept (right next member) stepped,
    mergeField_accepts kept values stepped⟩

theorem merge_accepts (left : a.Distinct) (right : b.Distinct) (values : given.Distinct)
    (joined : a.merge b = .ok merged) :
    merged.Distinct ∧ (merged.Accepts given ↔ a.Accepts given ∧ b.Accepts given) := by
  obtain ⟨fields, ended, joined⟩ := Except.ok_of_bind joined
  cases joined
  exact mergeFields_accepts left right values ended

theorem merge_refuses {conflict : Conflict} (left : a.Distinct) (right : b.Distinct)
    (values : given.Distinct) (failed : a.merge b = .error conflict)
    (limits : conflict.reason.OfLimits) (present : (given conflict.field).isSome) :
    ¬ (a.Accepts given ∧ b.Accepts given) := by
  rintro ⟨accepted, accepted'⟩
  rcases Except.error_of_bind failed with stopped | ⟨_, -, failed⟩
  · obtain ⟨before, next, after, middle, parts, well, here⟩ := Except.foldlM_error stopped
    unfold Record.Distinct at right
    unfold Record.Accepts at accepted'
    rw [parts] at right accepted'
    obtain ⟨earlier, -⟩ := List.forall_mem_append.mp right
    obtain ⟨met, later⟩ := List.forall_mem_append.mp accepted'
    obtain ⟨kept, sums⟩ := mergeFields_accepts left earlier values well
    exact mergeField_refuses kept values here limits present
      ⟨sums.mpr ⟨accepted, met⟩, later next List.mem_cons_self⟩
  · cases failed

theorem mergeAll_accepts (start : first.Distinct) (others : ∀ record ∈ rest, record.Distinct)
    (values : given.Distinct) (joined : mergeAll first rest = .ok merged) :
    merged.Distinct ∧
      (merged.Accepts given ↔ first.Accepts given ∧ ∀ record ∈ rest, record.Accepts given) := by
  refine Except.foldlM_iff (Record.Accepts · given) (Record.Accepts · given) start
    (fun next member before after kept stepped => ?_) joined
  exact merge_accepts kept (others next member) values stepped

/-- A merged record accepts exactly what each of its members accepts. Members whose limits on a
field exclude each other accept nothing together that gives the field. -/
theorem mergeAll_conjoins (distinct : ∀ record ∈ first :: rest, record.Distinct)
    (values : given.Distinct) :
    (∀ merged, mergeAll first rest = .ok merged →
      (merged.Accepts given ↔ ∀ record ∈ first :: rest, record.Accepts given)) ∧
    ∀ conflict, mergeAll first rest = .error conflict → conflict.reason.OfLimits →
      (given conflict.field).isSome → ¬ ∀ record ∈ first :: rest, record.Accepts given := by
  obtain ⟨start, others⟩ := List.forall_mem_cons.mp distinct
  constructor
  · intro merged joined
    rw [List.forall_mem_cons]
    exact (mergeAll_accepts start others values joined).2
  · intro conflict failed limits present accepted
    -- The members up to the one that failed exclude each other, whatever those behind it say.
    obtain ⟨before, next, after, middle, rfl, well, here⟩ := Except.foldlM_error failed
    obtain ⟨earlier, later⟩ := List.forall_mem_append.mp others
    obtain ⟨leading, trailing⟩ := List.forall_mem_cons.mp accepted
    obtain ⟨met, more⟩ := List.forall_mem_append.mp trailing
    obtain ⟨kept, sums⟩ := mergeAll_accepts start earlier values well
    exact merge_refuses kept (later next List.mem_cons_self) values here limits present
      ⟨sums.mpr ⟨leading, met⟩, more next List.mem_cons_self⟩

/-- One field of text, with limits on it. -/
def namedText (required : Bool) (limits : Constraints) : Record :=
  let ty : Ty := if required then .leaf .string else .optional (.leaf .string)
  ⟨none, none, [⟨"n", ty, required, if required then .required else .noValue, limits, none, none⟩]⟩

theorem mergeAll_conjoins_namedText :
    let short := namedText false ⟨none, some 3, some [.str "a", .str "bb"]⟩
    let listed := namedText true ⟨some 1, none, some [.str "bb", .str "ccc"]⟩
    let long := namedText false ⟨some 4, none, none⟩
    let merged := namedText true ⟨some 1, some 3, some [.str "bb"]⟩
    let given : Assignment := fun name => if name = "n" then some (2, .str "bb") else none
    mergeAll short [listed] = .ok merged ∧ merged.Accepts given ∧
      mergeAll short [listed, long] = .error ⟨"n", .lengthWindow 4 3⟩ ∧
      ¬ ∀ record ∈ [short, listed, long], record.Accepts given := by
  intro short listed long merged given
  have joined : mergeAll short [listed] = .ok merged := by cbv
  have failed : mergeAll short [listed, long] = .error ⟨"n", .lengthWindow 4 3⟩ := by cbv
  have values : given.Distinct := by
    intro name length value assigned
    simp only [given] at assigned
    split at assigned <;> cases assigned
    exact .str
  have distinct : ∀ record ∈ [short, listed, long], record.Distinct := by
    simp [Record.Distinct, Field.AllDistinct, Constraints.Distinct, short, listed, long, namedText,
      Json.Distinct.str]
  have accepted : ∀ record ∈ [short, listed], record.Accepts given := by
    have accepts (required : Bool) {limits : Constraints} (admits : limits.Admits 2 (.str "bb")) :
        (namedText required limits).Accepts given := List.forall_mem_singleton.mpr admits
    have among {values : List Json} (member : .str "bb" ∈ values) :
        Json.Among (.str "bb") values := ⟨_, member, rfl⟩
    refine List.forall_mem_cons.mpr ⟨accepts _ ?_, List.forall_mem_singleton.mpr (accepts _ ?_)⟩
    · exact ⟨by simp, by simp, by simpa using among (by simp)⟩
    · exact ⟨by simp, by simp, by simpa using among (by simp)⟩
  have fewer : ∀ record ∈ [short, listed], record.Distinct := fun record member =>
    distinct record (List.mem_append_left [long] member)
  exact ⟨joined, ((mergeAll_conjoins fewer values).1 _ joined).mpr accepted, failed,
    (mergeAll_conjoins distinct values).2 _ failed .lengthWindow rfl⟩

end Record

end SchemaTypes
