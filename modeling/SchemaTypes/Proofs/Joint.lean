import Mathlib.Data.List.Induction
import SchemaTypes.Proofs.TypeEquality
import SchemaTypes.Ty.Schema

/-! What fields of one name come to together. Merging them one after the other gives what can be read
off all of them at once, and it fails exactly when two of them exclude each other or all of them leave
nothing over. -/
namespace SchemaTypes

theorem exists_cons_cons {α : Type} {items : List α} (several : 2 ≤ items.length) :
    ∃ first second rest, items = first :: second :: rest := by
  obtain ⟨first, others, rfl⟩ := List.exists_cons_of_length_pos (by omega : 0 < items.length)
  rw [List.length_cons] at several
  obtain ⟨second, rest, rfl⟩ := List.exists_cons_of_length_pos (by omega : 0 < others.length)
  exact ⟨first, second, rest, rfl⟩

/-- The first of some values, or what a field falls back to without one. -/
def FieldDefault.ofValues (required : Bool) (values : List Json) : FieldDefault :=
  match values.head? with
  | some given => .value given
  | none => if required then .required else .noValue

namespace Constraints

/-- The values of the first list that all others hold too. -/
def shared : List (List Json) → Option (List Json)
  | [] => none
  | first :: others => some (first.filter fun value => others.all fun values => values.any value.same)

/-- The largest lower limit, the smallest upper one, and the values that all lists share. -/
def joint (limits : List Constraints) : Constraints where
  minLength := (limits.filterMap minLength).max?
  maxLength := (limits.filterMap maxLength).min?
  allowed := shared (limits.filterMap allowed)

/-- Where there are several lists of values, they share one. -/
def Overlap (lists : List (List Json)) : Prop := 2 ≤ lists.length → shared lists ≠ some []

end Constraints

namespace Field

/-- What fields of one name come to together, the first of them and those behind it. -/
def joint (first : Field) (others : List Field) : Field :=
  let all := first :: others
  let required := all.any (·.required)
  { name := first.name
    ty := if required then first.ty.base else .optional first.ty.base
    required := required
    default := .ofValues required (all.filterMap (·.default.value?))
    constraints := .joint (all.map (·.constraints))
    title := all.findSome? (·.title)
    description := all.findSome? (·.description) }

/-- The ways in which fields of one name have nothing in common. -/
inductive Clash (occurrences : List Field) : Prop where
  | types {a b : Field} : a ∈ occurrences → b ∈ occurrences →
      a.ty.base.same b.ty.base = false → Clash occurrences
  | defaults {a b : Field} {x y : Json} : a ∈ occurrences → b ∈ occurrences →
      a.default = .value x → b.default = .value y → x.same y = false → Clash occurrences
  | lengths {min max : Nat} : (occurrences.filterMap (·.constraints.minLength)).max? = some min →
      (occurrences.filterMap (·.constraints.maxLength)).min? = some max → max < min →
      Clash occurrences
  | values {first second : List Json} {rest : List (List Json)} :
      occurrences.filterMap (·.constraints.allowed) = first :: second :: rest →
      (¬ ∃ value ∈ first, ∀ values ∈ second :: rest, value.Among values) → Clash occurrences

end Field

/-! ## Limits -/

namespace Constraints

variable {limits : List Constraints} {next joined : Constraints} {lists : List (List Json)}
  {more : Option (List Json)} {numbers : List Nat}

theorem max?_concat (numbers : List Nat) (more : Option Nat) :
    (numbers ++ more.toList).max? = mergeMin numbers.max? more := by
  cases numbers with
  | nil => cases more <;> rfl
  | cons first rest => cases more <;> simp [List.max?, mergeMin]

theorem min?_concat (numbers : List Nat) (more : Option Nat) :
    (numbers ++ more.toList).min? = mergeMax numbers.min? more := by
  cases numbers with
  | nil => cases more <;> rfl
  | cons first rest => cases more <;> simp [List.min?, mergeMax]

theorem shared_concat (first : List Json) (others : List (List Json)) (values : List Json) :
    shared (first :: others ++ [values]) =
      some (common (first.filter fun value => others.all fun values => values.any value.same)
        values) := by
  simp [shared, common, List.filter_filter, Bool.and_comm]

theorem mergeAllowed_some_iff {xs ys : List Json} {result : Option (List Json)} :
    mergeAllowed (some xs) (some ys) = .ok result ↔
      common xs ys ≠ [] ∧ some (common xs ys) = result := by
  simp only [mergeAllowed]
  split
  · next none => simp [List.isEmpty_iff.mp none]
  · next found => simp [mt List.isEmpty_iff.mpr found]

/-- A further list is merged as the lists before it share a value with it. -/
theorem mergeAllowed_iff {result : Option (List Json)} :
    mergeAllowed (shared lists) more = .ok result ↔
      (lists ≠ [] → more.isSome → shared (lists ++ more.toList) ≠ some []) ∧
        shared (lists ++ more.toList) = result := by
  cases lists with
  | nil => cases more <;> simp [shared, mergeAllowed]
  | cons first others =>
    cases more with
    | none => simp [shared, mergeAllowed]
    | some values =>
      rw [Option.toList_some, shared_concat, shared, mergeAllowed_some_iff]
      simp

theorem overlap_concat : Overlap (lists ++ more.toList) ↔
    Overlap lists ∧ (lists ≠ [] → more.isSome → shared (lists ++ more.toList) ≠ some []) := by
  cases lists with
  | nil => cases more <;> simp [Overlap]
  | cons first others =>
    cases more with
    | none => simp [Overlap]
    | some values =>
      have shrinks : shared (first :: others) = some [] →
          shared (first :: others ++ [values]) = some [] := by
        intro none
        simp only [shared, Option.some.injEq] at none
        rw [shared_concat, none]
        rfl
      simp only [Overlap, Option.toList_some, List.length_append, List.length_cons]
      grind

theorem joint_concat : joint (limits ++ [next]) =
    ⟨mergeMin (joint limits).minLength next.minLength,
      mergeMax (joint limits).maxLength next.maxLength,
      shared (limits.filterMap allowed ++ next.allowed.toList)⟩ := by
  have single {α : Type} (part : Constraints → Option α) :
      [next].filterMap part = (part next).toList := by
    cases found : part next <;> simp [found]
  simp only [joint, List.filterMap_append, single, max?_concat, min?_concat]

theorem joint_merge_iff : (joint limits).merge next = .ok joined ↔
    (limits.filterMap allowed ≠ [] → next.allowed.isSome →
      (joint (limits ++ [next])).allowed ≠ some []) ∧
    (joint (limits ++ [next])).Window ∧ joined = joint (limits ++ [next]) := by
  rw [merge_iff, joint_concat]
  simp only [joint]
  rw [mergeAllowed_iff]
  constructor
  · rintro ⟨min, max, window, overlap, allowed⟩
    obtain ⟨_, _, _⟩ := joined
    cases min
    cases max
    cases allowed
    exact ⟨overlap, window, rfl⟩
  · rintro ⟨overlap, window, rfl⟩
    exact ⟨rfl, rfl, window, overlap, rfl⟩

/-- A window of merged limits is within that of either side. -/
theorem window_of_merged {left right lower upper : Option Nat}
    (window : ∀ min ∈ mergeMin left right, ∀ max ∈ mergeMax lower upper, min ≤ max) :
    (∀ min ∈ left, ∀ max ∈ lower, min ≤ max) ∧ ∀ min ∈ right, ∀ max ∈ upper, min ≤ max := by
  have above (max : Nat) (member : max ∈ mergeMax lower upper) :=
    mergeMin_le.mp fun min lowest => window min lowest max member
  constructor
  · intro min lowest
    exact (le_mergeMax.mp fun max member => (above max member).1 min lowest).1
  · intro min lowest
    exact (le_mergeMax.mp fun max member => (above max member).2 min lowest).2

/-- Fewer limits leave more room. -/
theorem Window.of_concat (window : (joint (limits ++ [next])).Window) : (joint limits).Window := by
  rw [joint_concat] at window
  exact (window_of_merged window).1

end Constraints

/-! ## Fields -/

namespace FieldDefault

variable {required : Bool} {values : List Json} {a b next result : FieldDefault}

/-- Two values, where both are given, are equal. -/
def Fits (left right : Option Json) : Prop := ∀ x ∈ left, ∀ y ∈ right, x.same y = true

theorem value?_ofValues : (ofValues required values).value? = values.head? := by
  cases values with
  | nil => cases required <;> rfl
  | cons => rfl

/-- The first value given is kept, and a second one has to be equal to it. -/
theorem merge_iff : FieldDefault.merge required a b = .ok result ↔
    Fits a.value? b.value? ∧ .ofValues required (a.value?.or b.value?).toList = result := by
  cases a with
  | value x =>
    cases b with
    | value y => by_cases same : x.same y <;> simp [FieldDefault.merge, Fits, value?, ofValues, same]
    | _ => simp [FieldDefault.merge, Fits, value?, ofValues]
  | _ => cases b <;> simp [FieldDefault.merge, Fits, value?, ofValues]

theorem merge_value? (joined : FieldDefault.merge required a b = .ok result) :
    result.value? = a.value?.or b.value? := by
  obtain ⟨-, rfl⟩ := merge_iff.mp joined
  rw [value?_ofValues, Option.head?_toList]

/-- A further default is merged unless it gives another value than the first one. -/
theorem ofValues_merge_iff {before : Bool} :
    FieldDefault.merge required (.ofValues before values) next = .ok result ↔
      Fits values.head? next.value? ∧ .ofValues required (values ++ next.value?.toList) = result := by
  have first : ofValues required (values.head?.or next.value?).toList =
      ofValues required (values ++ next.value?.toList) := by
    cases values <;> simp [ofValues]
  rw [merge_iff, value?_ofValues, first]

/-- Merging looks at the value of a default only. -/
theorem merge_congr {other : FieldDefault} (given : other.value? = result.value?) :
    FieldDefault.merge required other next = FieldDefault.merge required result next := by
  cases other <;> cases result <;> cases next <;> simp_all [value?, FieldDefault.merge]

end FieldDefault

namespace Field

variable {a b merged first next : Field} {others : List Field}

theorem filterMap_concat {α β : Type} (part : α → Option β) (items : List α) (next : α) :
    (items ++ [next]).filterMap part = items.filterMap part ++ (part next).toList := by
  rw [List.filterMap_append]
  cases found : part next <;> simp [found]

/-- The values that fields fall back to. -/
def values (fields : List Field) : List Json := fields.filterMap (·.default.value?)

/-- The lists of values that fields are limited to. -/
def lists (fields : List Field) : List (List Json) := fields.filterMap (·.constraints.allowed)

theorem values_concat (fields : List Field) (next : Field) :
    values (fields ++ [next]) = values fields ++ next.default.value?.toList :=
  filterMap_concat _ fields next

theorem lists_concat (fields : List Field) (next : Field) :
    lists (fields ++ [next]) = lists fields ++ next.constraints.allowed.toList :=
  filterMap_concat _ fields next

/-- The first of some values is that of all others. -/
def OneValue (given : List Json) : Prop :=
  ∀ first ∈ given.head?, ∀ other ∈ given.tail, first.same other = true

theorem oneValue_concat {given : List Json} {more : Option Json} :
    OneValue (given ++ more.toList) ↔
      OneValue given ∧ ∀ first ∈ given.head?, ∀ other ∈ more, first.same other = true := by
  cases given with
  | nil => cases more <;> simp [OneValue]
  | cons first rest => cases more <;> simp [OneValue, or_imp, forall_and]

/-- Fields of one name agree: they have one base type, give one value, and share a listed one. -/
structure Agree (first : Field) (others : List Field) : Prop where
  types : ∀ other ∈ others, first.ty.base.same other.ty.base = true
  defaults : OneValue (values (first :: others))
  overlap : Constraints.Overlap (lists (first :: others))

/-- A further field agrees with those before it. -/
structure Joins (base : Ty) (fields : List Field) (next : Field) : Prop where
  type : base.same next.ty.base = true
  default : ∀ value ∈ (values fields).head?, ∀ other ∈ next.default.value?, value.same other = true
  overlap : lists fields ≠ [] → next.constraints.allowed.isSome →
    Constraints.shared (lists (fields ++ [next])) ≠ some []

theorem agree_nil : Agree first [] where
  types := by simp
  defaults := by cases found : first.default.value? <;> simp [OneValue, values, found]
  overlap := by
    intro several
    cases found : first.constraints.allowed <;> simp [lists, found] at several

theorem agree_concat : Agree first (others ++ [next]) ↔
    Agree first others ∧ Joins first.ty.base (first :: others) next := by
  have given := values_concat (first :: others) next
  have listed := lists_concat (first :: others) next
  constructor
  · rintro ⟨types, defaults, overlap⟩
    obtain ⟨types, type⟩ := List.forall_mem_append.mp types
    obtain ⟨defaults, default⟩ := oneValue_concat.mp (given ▸ defaults)
    obtain ⟨overlap, joint⟩ := Constraints.overlap_concat.mp (listed ▸ overlap)
    exact ⟨⟨types, defaults, overlap⟩, type next List.mem_cons_self, default, listed ▸ joint⟩
  · rintro ⟨⟨types, defaults, overlap⟩, type, default, joint⟩
    refine ⟨List.forall_mem_append.mpr ⟨types, List.forall_mem_singleton.mpr type⟩, ?_, ?_⟩
    · exact given ▸ oneValue_concat.mpr ⟨defaults, default⟩
    · exact listed ▸ Constraints.overlap_concat.mpr ⟨overlap, listed ▸ joint⟩

theorem joint_base : (first.joint others).ty.base = first.ty.base := by
  have base := Ty.base_of_required first.ty ((first :: others).any (·.required))
  rwa [first.ty.base_cases.2] at base

/-- What a further field adds to what the fields before it come to. -/
theorem joint_concat :
    let required := (first.joint others).required || next.required
    first.joint (others ++ [next]) =
      { name := first.name
        ty := if required then first.ty.base else .optional first.ty.base
        required := required
        default := .ofValues required (values (first :: others) ++ next.default.value?.toList)
        constraints := .joint ((first :: others).map (·.constraints) ++ [next.constraints])
        title := (first.joint others).title.or next.title
        description := (first.joint others).description.or next.description } := by
  have required : (first :: (others ++ [next])).any (·.required) =
      ((first.joint others).required || next.required) := by
    simp [joint, Bool.or_assoc]
  have given : (first :: (others ++ [next])).filterMap (·.default.value?) =
      values (first :: others) ++ next.default.value?.toList := values_concat (first :: others) next
  have texts (part : Field → Option String) : (first :: (others ++ [next])).findSome? part =
      ((first :: others).findSome? part).or (part next) := by
    rw [← List.cons_append, List.findSome?_append]
    simp
  have limits : (first :: (others ++ [next])).map (·.constraints) =
      (first :: others).map (·.constraints) ++ [next.constraints] := by simp
  intro needed
  simp only [joint, texts, given, required, limits]
  rfl

/-- A further field is merged with what the fields before it come to if it agrees with them and the
limits of all leave a window. -/
theorem joint_merge_iff : (first.joint others).merge next = .ok merged ↔
    Joins first.ty.base (first :: others) next ∧
      (first.joint (others ++ [next])).constraints.Window ∧
      first.joint (others ++ [next]) = merged := by
  have given (fields : List Field) :
      (fields.map (·.constraints)).filterMap (·.allowed) = lists fields := List.filterMap_map ..
  have shares : (Constraints.joint ((first :: others).map (·.constraints) ++
      [next.constraints])).allowed = Constraints.shared (lists (first :: others ++ [next])) := by
    rw [← given, List.map_append]
    rfl
  rw [merge_iff, joint_base]
  constructor
  · rintro ⟨type, name, required, ty, default, limited, title, description⟩
    obtain ⟨default, fallback⟩ := FieldDefault.ofValues_merge_iff.mp default
    obtain ⟨overlap, window, limits⟩ := Constraints.joint_merge_iff.mp limited
    rw [shares, given] at overlap
    refine ⟨⟨type, default, overlap⟩, ?_, ?_⟩
    · rwa [joint_concat]
    · obtain ⟨_, _, _, _, _, _, _⟩ := merged
      cases name
      cases required
      cases ty
      cases fallback
      cases limits
      cases title
      cases description
      exact joint_concat
  · rintro ⟨⟨type, default, overlap⟩, window, rfl⟩
    rw [joint_concat] at window ⊢
    refine ⟨type, rfl, rfl, rfl, ?_, ?_, rfl, rfl⟩
    · exact FieldDefault.ofValues_merge_iff.mpr ⟨default, rfl⟩
    · refine Constraints.joint_merge_iff.mpr ⟨?_, window, rfl⟩
      rwa [shares, given]

theorem filterMap_singleton {α β : Type} (part : α → Option β) (item : α) :
    [item].filterMap part = (part item).toList := filterMap_concat part [] item

/-- Merging does not tell a field from what it comes to alone. -/
theorem merge_joint_nil : (first.joint []).merge next = first.merge next := by
  have required : (first.joint []).required = first.required := Bool.or_false _
  have default (needed : Bool) : FieldDefault.merge needed (first.joint []).default next.default =
      FieldDefault.merge needed first.default next.default := by
    refine FieldDefault.merge_congr ?_
    simp only [joint, FieldDefault.value?_ofValues, filterMap_singleton, Option.head?_toList]
  have limits : (first.joint []).constraints = first.constraints := by
    cases limits : first.constraints with
    | mk min max allowed =>
      simp only [joint, List.map_singleton, limits, Constraints.joint, filterMap_singleton]
      cases min <;> cases max <;> cases allowed <;> simp [Constraints.shared]
  have texts (part : Field → Option String) : [first].findSome? part = part first := by simp
  have title : (first.joint []).title = first.title := texts (·.title)
  have description : (first.joint []).description = first.description := texts (·.description)
  have name : (first.joint []).name = first.name := rfl
  simp only [Field.merge, joint_base, required, default, limits, title, description, name]

theorem window_of_concat (window : (first.joint (others ++ [next])).constraints.Window) :
    (first.joint others).constraints.Window := by
  rw [joint_concat] at window
  exact Constraints.Window.of_concat window

theorem foldlM_concat : (others ++ [next]).foldlM Field.merge first =
    others.foldlM Field.merge first >>= fun before => before.merge next := by
  rw [List.foldlM_append]
  exact bind_congr fun before => (List.foldlM_cons ..).trans (bind_pure _)

theorem foldlM_joint_iff : others.foldlM Field.merge (first.joint []) = .ok merged ↔
    Agree first others ∧ (others ≠ [] → (first.joint others).constraints.Window) ∧
      first.joint others = merged := by
  induction others using List.reverseRecOn generalizing merged with
  | nil =>
    have start : ([] : List Field).foldlM Field.merge (first.joint []) = .ok merged ↔
        first.joint [] = merged := iff_of_eq (Except.ok.injEq _ _)
    rw [start]
    simp [agree_nil]
  | append_singleton others next ih =>
    rw [foldlM_concat, Except.bind_ok_iff, agree_concat]
    constructor
    · rintro ⟨_, ran, ended⟩
      obtain ⟨agree, -, rfl⟩ := ih.mp ran
      obtain ⟨joins, window, whole⟩ := joint_merge_iff.mp ended
      exact ⟨⟨agree, joins⟩, fun _ => window, whole⟩
    · rintro ⟨⟨agree, joins⟩, window, whole⟩
      have window := window (by simp)
      exact ⟨_, ih.mpr ⟨agree, fun _ => window_of_concat window, rfl⟩,
        joint_merge_iff.mpr ⟨joins, window, whole⟩⟩

/-- Fields of one name are merged one after the other if they agree and their limits leave a window,
and then to what they come to together. -/
theorem foldlM_merge_iff (several : others ≠ []) :
    others.foldlM Field.merge first = .ok merged ↔
      Agree first others ∧ (first.joint others).constraints.Window ∧
        first.joint others = merged := by
  obtain ⟨second, rest, rfl⟩ := List.exists_cons_of_ne_nil several
  rw [List.foldlM_cons, ← merge_joint_nil, ← List.foldlM_cons, foldlM_joint_iff]
  simp

/-! ## What keeps fields apart -/

theorem shared_eq_nil_iff {first : List Json} {others : List (List Json)} :
    Constraints.shared (first :: others) = some [] ↔
      ¬ ∃ value ∈ first, ∀ values ∈ others, value.Among values := by
  simp [Constraints.shared, Json.Among]

theorem mem_values {fields : List Field} {value : Json} :
    value ∈ values fields ↔ ∃ field ∈ fields, field.default = .value value := by
  simp only [values, List.mem_filterMap]
  refine exists_congr fun field => and_congr_right' ?_
  cases field.default <;> simp [FieldDefault.value?]

theorem joint_limits (fields : List Field) :
    (Constraints.joint (fields.map (·.constraints))).minLength =
        (fields.filterMap (·.constraints.minLength)).max? ∧
      (Constraints.joint (fields.map (·.constraints))).maxLength =
        (fields.filterMap (·.constraints.maxLength)).min? := by
  simp only [Constraints.joint, List.filterMap_map]
  exact ⟨rfl, rfl⟩

theorem Agree.not_clash (agree : Agree first others)
    (window : (first.joint others).constraints.Window)
    (clear : ∀ field ∈ first :: others, field.Unambiguous) : ¬ Clash (first :: others) := by
  obtain ⟨types, defaults, overlap⟩ := agree
  intro clash
  cases clash with
  | types left right differ =>
    have start := (clear first List.mem_cons_self).ty.base
    have alike : ∀ field ∈ first :: others, first.ty.base.same field.ty.base = true :=
      List.forall_mem_cons.mpr ⟨Ty.same_refl start, types⟩
    have back := Ty.same_symm start (clear _ left).ty.base (alike _ left)
    have same := Ty.same_trans (clear _ left).ty.base back (alike _ right)
    exact absurd same (by simp [differ])
  | @defaults a b x y left right given given' differ =>
    have left' : x ∈ values (first :: others) := mem_values.mpr ⟨a, left, given⟩
    have right' : y ∈ values (first :: others) := mem_values.mpr ⟨b, right, given'⟩
    have distinct : ∀ value ∈ values (first :: others), value.Distinct := by
      intro value member
      obtain ⟨field, inside, given⟩ := mem_values.mp member
      exact (clear field inside).default value given
    cases found : values (first :: others) with
    | nil => simp [found] at left'
    | cons value rest =>
      rw [found] at left' right' distinct defaults
      have alike : ∀ other ∈ value :: rest, value.same other = true :=
        List.forall_mem_cons.mpr ⟨Json.same_refl (distinct value List.mem_cons_self),
          defaults value rfl⟩
      have back := Json.same_symm (distinct value List.mem_cons_self) (distinct x left')
        (alike x left')
      have same := Json.same_trans (distinct x left') back (alike y right')
      exact absurd same (by simp [differ])
  | lengths lowest highest less =>
    obtain ⟨min, max⟩ := joint_limits (first :: others)
    exact absurd (window _ (min.trans lowest) _ (max.trans highest)) (by omega)
  | values listed none =>
    refine overlap ?_ ?_
    · simp [lists, listed]
    · rw [lists, listed]
      exact shared_eq_nil_iff.mpr none

theorem agree_of_not_clash (together : ¬ Clash (first :: others)) :
    Agree first others ∧ (first.joint others).constraints.Window := by
  refine ⟨⟨fun other member => ?_, fun value head other tail => ?_, fun several none => ?_⟩,
    fun min lowest max highest => ?_⟩
  · by_contra differ
    exact together (.types List.mem_cons_self (List.mem_cons_of_mem _ member)
      (Bool.eq_false_iff.mpr differ))
  · obtain ⟨a, left, given⟩ := mem_values.mp (List.mem_of_mem_head? head)
    obtain ⟨b, right, given'⟩ := mem_values.mp (List.mem_of_mem_tail tail)
    by_contra differ
    exact together (.defaults left right given given' (Bool.eq_false_iff.mpr differ))
  · obtain ⟨_, _, _, found⟩ := exists_cons_cons several
    rw [found] at none
    exact together (.values found (shared_eq_nil_iff.mp none))
  · obtain ⟨lowest', highest'⟩ := joint_limits (first :: others)
    by_contra less
    exact together (.lengths (lowest'.symm.trans lowest) (highest'.symm.trans highest)
      (Nat.lt_of_not_le less))

end Field

end SchemaTypes
