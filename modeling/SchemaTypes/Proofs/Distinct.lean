import SchemaTypes.Proofs.Parts
import SchemaTypes.Schema.Files

/-! Values in which no object holds a key twice. All values that are read from text are such, and so
is what a loader of files gives. -/
namespace SchemaTypes

/-- No object holds a key twice, at any depth. -/
inductive Json.Distinct : Json → Prop where
  | null : Distinct .null
  | bool {value : Bool} : Distinct (.bool value)
  | num {value : Number} : Distinct (.num value)
  | str {value : String} : Distinct (.str value)
  | arr {items : List Json} : (∀ item ∈ items, Distinct item) → Distinct (.arr items)
  | obj {members : Members} : (Keyed.keys members).Nodup →
      (∀ member ∈ members, Distinct member.2) → Distinct (.obj members)

namespace Json.Distinct

theorem member {members : Members} (distinct : (Json.obj members).Distinct) {key : String}
    {value : Json} (inside : (key, value) ∈ members) : value.Distinct := by
  cases distinct with
  | obj _ parts => exact parts (key, value) inside

theorem get? {members : Members} (distinct : (Json.obj members).Distinct) {key : String}
    {value : Json} (found : members.get? key = some value) : value.Distinct :=
  distinct.member (Keyed.mem_of_lookup found)

theorem keys {members : Members} (distinct : (Json.obj members).Distinct) :
    (Keyed.keys members).Nodup := by
  cases distinct with
  | obj keys _ => exact keys

theorem item {items : List Json} (distinct : (Json.arr items).Distinct) {value : Json}
    (inside : value ∈ items) : value.Distinct := by
  cases distinct with
  | arr parts => exact parts value inside

theorem part {members : Members} (distinct : (Json.obj members).Distinct) {path : List String}
    {node : Json} (part : Node.Part members path node) : node.Distinct := by
  cases part with
  | alternative found member | conjunct found member =>
    exact (distinct.get? found).item (List.mem_of_getElem? member)
  | property found member => exact (distinct.get? found).member member
  | items found => exact distinct.get? found

theorem child? {value part : Json} (distinct : value.Distinct) {segment : String}
    (found : value.child? segment = some part) : part.Distinct := by
  cases value with
  | obj members => exact distinct.get? found
  | arr items =>
    obtain ⟨index, -, found⟩ := Option.bind_eq_some_iff.mp found
    exact distinct.item (List.mem_of_getElem? found)
  | _ => cases found

theorem pointer? {pointer : String} {value part : Json} (distinct : value.Distinct)
    (found : value.pointer? pointer = some part) : part.Distinct :=
  pointer?_keeps (fun _ _ _ found distinct => distinct.child? found) found distinct

theorem entry {members : Members} (distinct : (Json.obj members).Distinct)
    {entries : List Definitions.Entry} (read : Definitions.entries members = .ok entries) :
    ∀ entry ∈ entries, entry.node.Distinct := by
  intro entry member
  obtain ⟨-, definitions, found, inside⟩ := Definitions.mem_entries read member
  exact (distinct.get? found).member inside

end Json.Distinct

namespace Json.Reader

/-- What is taken off the front of some bytes, if anything, holds no key twice. -/
def Clean (taken : Except Fault (Json × Bytes)) : Prop :=
  ∀ value rest, taken = .ok (value, rest) → value.Distinct

namespace Clean

variable {value : Json} {rest : Bytes} {fault : Fault}

theorem ok (distinct : value.Distinct) : Clean (.ok (value, rest)) := by
  intro _ _ same
  cases same
  exact distinct

theorem error : Clean (.error fault) := fun _ _ same => nomatch same

theorem bind {α : Type} {first : Except Fault α} {next : α → Except Fault (Json × Bytes)}
    (rest : ∀ a, first = .ok a → Clean (next a)) : Clean (first >>= next) := by
  cases first with
  | ok a => exact rest a rfl
  | error fault => exact error

theorem ite {condition : Prop} [Decidable condition] {first second : Except Fault (Json × Bytes)}
    (yes : Clean first) (no : Clean second) : Clean (if condition then first else second) := by
  split
  · exact yes
  · exact no

end Clean

theorem clean_word {value : Json} (distinct : value.Distinct) (letters : List UInt8) (s : Bytes) :
    Clean (word value letters s) := by
  fun_induction word value letters s with
  | case1 => exact .ok distinct
  | case2 => exact .error
  | case3 _ _ _ ih => exact ih
  | case4 => exact .error

theorem clean_decimal {negative : Bool} {significand : Nat} {exponent : Int} {rest : Bytes} :
    Clean (decimal negative significand exponent rest) := by
  unfold decimal
  split
  · exact .ok .num
  · exact .error

theorem clean_exponentPart {negative : Bool} {significand : Nat} {start : Int} {s : Bytes} :
    Clean (exponentPart negative significand start s) := by
  unfold exponentPart
  simp only
  split
  · exact .error
  · exact .ite .error (.ite (.ite .error (.ok .num)) clean_decimal)

theorem clean_fractionPart {negative : Bool} {significand exponent : Nat} {s : Bytes} :
    Clean (fractionPart negative significand exponent s) :=
  .ite (.ite .error .error) (.ite clean_exponentPart clean_decimal)

theorem integer_distinct {negative : Bool} {n : Nat} : (integer negative n).Distinct := by
  unfold integer
  split
  · split <;> exact .num
  · exact .num

theorem clean_number {negative : Bool} {s : Bytes} : Clean (number negative s) := by
  unfold number
  split
  · exact .error
  · refine .ite .error (.ite .error (.ite clean_fractionPart (.ite clean_exponentPart ?_)))
    exact .ite (.ok integer_distinct) clean_decimal

/-- Nothing more than a step is added to a refusal. -/
theorem ok_of_within {α : Type} {step : Step} {taken : Except Fault α} {a : α}
    (same : within step taken = .ok a) : taken = .ok a := by
  cases taken with
  | ok value => exact same
  | error fault => cases same

section

variable {item : Bytes → Except Fault (Json × Bytes)} (clean : ∀ s, Clean (item s))

include clean

theorem clean_items {bound index : Nat} {acc : List Json} {s : Bytes}
    (before : ∀ value ∈ acc, value.Distinct) : Clean (items item bound index acc s) := by
  induction bound generalizing index acc s with
  | zero => exact .error
  | succ bound ih =>
    refine .bind fun separator _ => ?_
    cases separator with
    | done rest => exact .ok (.arr fun value member => before value (List.mem_reverse.mp member))
    | next rest =>
      refine .bind fun ⟨value, rest⟩ taken => ih ?_
      exact List.forall_mem_cons.mpr ⟨clean _ _ _ (ok_of_within taken), before⟩

theorem clean_members {bound : Nat} {first : Bool} {acc : Members} {s : Bytes}
    (keys : (Keyed.keys acc).Nodup) (before : ∀ member ∈ acc, member.2.Distinct) :
    Clean (members item bound first acc s) := by
  induction bound generalizing first acc s with
  | zero => exact .error
  | succ bound ih =>
    refine .bind fun separator _ => ?_
    cases separator with
    | done rest => exact .ok (.obj keys before)
    | next rest =>
      refine .bind fun ⟨key, rest⟩ _ => .bind fun _ _ => .bind fun ⟨value, rest⟩ taken => ?_
      refine ih (Keyed.nodup_insert keys) fun member inside => ?_
      rcases Keyed.mem_insert inside with rfl | inside
      · exact clean _ _ _ (ok_of_within taken)
      · exact before member inside

end

theorem clean_value (depth : Nat) (s : Bytes) : Clean (value depth s) := by
  unfold value
  split
  · exact .error
  · split
    · exact clean_word .null _ _
    · exact clean_word .bool _ _
    · exact clean_word .bool _ _
    · exact clean_number
    · exact .bind fun _ _ => .ok .str
    · cases depth with
      | zero => exact .error
      | succ depth => exact clean_items (clean_value depth) (by simp)
    · cases depth with
      | zero => exact .error
      | succ depth => exact clean_members (clean_value depth) List.nodup_nil (by simp)
    · exact .ite clean_number .error

end Json.Reader

/-- A text has no way to say a key twice: the later value takes the place of the earlier one. -/
theorem Json.read_distinct {s : List UInt8} {value : Json} (taken : read s = .ok value) :
    value.Distinct := by
  unfold read readNested at taken
  split at taken
  · next found =>
    cases taken
    obtain ⟨⟨result, rest⟩, front, ended⟩ := Except.ok_of_bind found
    have distinct := Reader.clean_value _ _ _ _ front
    simp only at ended
    split at ended
    · cases ended
      exact distinct
    · cases ended
  · cases taken

/-- No document of a tree of files holds a key twice. -/
theorem FileTree.load_distinct (tree : FileTree) {location : Location} {document : Json}
    (loaded : tree.load location = .ok document) : document.Distinct := by
  cases location with
  | url url => cases loaded
  | path path =>
    simp only [load] at loaded
    cases found : tree.read path with
    | error reason =>
      rw [found] at loaded
      cases loaded
    | ok content =>
      rw [found] at loaded
      cases taken : Json.read content with
      | ok value =>
        simp only [taken] at loaded
        cases loaded
        exact Json.read_distinct taken
      | error error =>
        simp only [taken] at loaded
        cases loaded

end SchemaTypes
