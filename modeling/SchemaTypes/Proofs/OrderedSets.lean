import SchemaTypes.Proofs.SourceLines

/-! Which sets are written as ordered ones. Whether the elements of a set have an order is decided by
what its type contains at any depth, numbers, records and unions having none, and the text of a type
keeps to that decision wherever a set stands in it: what an ordered set is written with is text, or
lists, sets and options of text, and no set of such elements is written in another way. -/
namespace SchemaTypes

open DataModel

/-! ## Types without an order -/

/-- The types that a type consists of, itself included, down through fields and arms. -/
inductive Ty.Contains (part : Ty) : Ty → Prop where
  | self : Contains part part
  | list {item : Ty} : Contains part item → Contains part (.list item)
  | set {item : Ty} : Contains part item → Contains part (.set item)
  | optional {inner : Ty} : Contains part inner → Contains part (.optional inner)
  | field {record : Record} {field : Field} : field ∈ record.fields → Contains part field.ty →
      Contains part (.record record)
  | arm {arms : List Ty} {arm : Ty} : arm ∈ arms → Contains part arm → Contains part (.oneOf arms)

/-- A number, a record or a union. -/
inductive Ty.Incomparable : Ty → Prop where
  | number : Incomparable (.leaf .number)
  | record (record : Record) : Incomparable (.record record)
  | oneOf (arms : List Ty) : Incomparable (.oneOf arms)

/-- There is a number, a record or a union in a type. -/
def Ty.Unordered (ty : Ty) : Prop := ∃ part : Ty, part.Contains ty ∧ part.Incomparable

namespace Ty.Unordered

variable {item inner : Ty} {leaf : Leaf}

theorem list_iff : (Ty.list item).Unordered ↔ item.Unordered := by
  constructor
  · rintro ⟨part, contains, incomparable⟩
    cases contains with
    | self => cases incomparable
    | list contains => exact ⟨part, contains, incomparable⟩
  · rintro ⟨part, contains, incomparable⟩
    exact ⟨part, .list contains, incomparable⟩

theorem set_iff : (Ty.set item).Unordered ↔ item.Unordered := by
  constructor
  · rintro ⟨part, contains, incomparable⟩
    cases contains with
    | self => cases incomparable
    | set contains => exact ⟨part, contains, incomparable⟩
  · rintro ⟨part, contains, incomparable⟩
    exact ⟨part, .set contains, incomparable⟩

theorem optional_iff : (Ty.optional inner).Unordered ↔ inner.Unordered := by
  constructor
  · rintro ⟨part, contains, incomparable⟩
    cases contains with
    | self => cases incomparable
    | «optional» contains => exact ⟨part, contains, incomparable⟩
  · rintro ⟨part, contains, incomparable⟩
    exact ⟨part, .optional contains, incomparable⟩

theorem leaf_iff : (Ty.leaf leaf).Unordered ↔ leaf = .number := by
  constructor
  · rintro ⟨part, contains, incomparable⟩
    cases contains
    cases incomparable
    rfl
  · rintro rfl
    exact ⟨_, .self, .number⟩

theorem record (record : Record) : (Ty.record record).Unordered := ⟨_, .self, .record record⟩

theorem oneOf (arms : List Ty) : (Ty.oneOf arms).Unordered := ⟨_, .self, .oneOf arms⟩

end Ty.Unordered

/-- The decision comes to what stands in the type at any depth. -/
theorem Ty.isOrderable_iff : ∀ ty : Ty, ty.isOrderable = true ↔ ¬ ty.Unordered
  | .record _ => by simp [Ty.isOrderable, Ty.Unordered.record]
  | .oneOf _ => by simp [Ty.isOrderable, Ty.Unordered.oneOf]
  | .list item => by rw [Ty.isOrderable, Ty.Unordered.list_iff, Ty.isOrderable_iff item]
  | .set item => by rw [Ty.isOrderable, Ty.Unordered.set_iff, Ty.isOrderable_iff item]
  | .optional inner => by
    rw [Ty.isOrderable, Ty.Unordered.optional_iff, Ty.isOrderable_iff inner]
  | .leaf _ => by simp [Ty.isOrderable, Ty.Unordered.leaf_iff]

/-! ## The text of a type -/

/-- The text that a type is written with: a set is an ordered one exactly if its elements contain
nothing without an order. -/
inductive Ty.WrittenAs : Ty → String → Prop where
  | text {leaf : Leaf} : leaf ≠ .number → WrittenAs (.leaf leaf) "String"
  | number : WrittenAs (.leaf .number) "f64"
  | record {record : Record} {name : String} : Word name → WrittenAs (.record record) name
  | oneOf {arms : List Ty} {name : String} : Word name → WrittenAs (.oneOf arms) name
  | list {item : Ty} {s : String} : WrittenAs item s → WrittenAs (.list item) ("Vec<" ++ s ++ ">")
  | orderedSet {item : Ty} {s : String} : ¬ item.Unordered → WrittenAs item s →
      WrittenAs (.set item) ("BTreeSet<" ++ s ++ ">")
  | set {item : Ty} {s : String} : item.Unordered → WrittenAs item s →
      WrittenAs (.set item) ("Vec<" ++ s ++ ">")
  | optional {inner : Ty} {s : String} : WrittenAs inner s →
      WrittenAs (.optional inner) ("Option<" ++ s ++ ">")

theorem Ty.WrittenAs.typeText {ty : Ty} {s : String} (written : ty.WrittenAs s) : TypeText s := by
  induction written with
  | text => exact .word ⟨by decide, List.all_eq_true.mp (by decide)⟩
  | number => exact .word ⟨by decide, List.all_eq_true.mp (by decide)⟩
  | record word => exact .word word
  | oneOf word => exact .word word
  | list _ ih => exact .list ih
  | orderedSet _ _ ih => exact .orderedSet ih
  | set _ _ ih => exact .list ih
  | «optional» _ ih => exact .optional ih

theorem Leaf.typeExpr_written (leaf : Leaf) : (Ty.leaf leaf).WrittenAs leaf.typeExpr.source := by
  cases leaf with
  | number => exact .number
  | string => exact .text (by simp)
  | uri => exact .text (by simp)
  | literal value => exact .text (by simp)

theorem Ty.typeExpr_written (ty : Ty) (hint : String) (draft : Draft) :
    ty.WrittenAs (ty.typeExpr hint draft).1.source := by
  cases ty with
  | record record => exact .record (Draft.claim_word hint draft)
  | oneOf arms => exact .oneOf (Draft.claim_word hint draft)
  | list item => exact .list (Ty.typeExpr_written item hint draft)
  | set item =>
    have element := Ty.typeExpr_written item hint draft
    show WrittenAs _ (if item.isOrderable then TypeExpr.orderedSet _ else .list _).source
    split
    · next orderable => exact .orderedSet ((Ty.isOrderable_iff item).mp orderable) element
    · next unorderable =>
      exact .set (not_not.mp (mt (Ty.isOrderable_iff item).mpr unorderable)) element
  | «optional» inner => exact .optional (Ty.typeExpr_written inner hint draft)
  | leaf kind => exact kind.typeExpr_written

namespace DataModel

/-! ## The elements of ordered sets -/

/-- Types that have an order: text, and lists, ordered sets and options of what has one. -/
inductive OrderedText : String → Prop where
  | text : OrderedText "String"
  | list {s : String} : OrderedText s → OrderedText ("Vec<" ++ s ++ ">")
  | orderedSet {s : String} : OrderedText s → OrderedText ("BTreeSet<" ++ s ++ ">")
  | optional {s : String} : OrderedText s → OrderedText ("Option<" ++ s ++ ">")

end DataModel

/-- Where nothing without an order is contained, no name is written and every set is an ordered one. -/
theorem Ty.WrittenAs.ordered {ty : Ty} {s : String} (written : ty.WrittenAs s)
    (ordered : ¬ ty.Unordered) : OrderedText s := by
  induction written with
  | text => exact .text
  | number => exact (ordered (Ty.Unordered.leaf_iff.mpr rfl)).elim
  | record => exact (ordered (.record _)).elim
  | oneOf => exact (ordered (.oneOf _)).elim
  | list _ ih => exact .list (ih (mt Ty.Unordered.list_iff.mpr ordered))
  | orderedSet element _ ih => exact .orderedSet (ih element)
  | set unordered => exact (ordered (Ty.Unordered.set_iff.mpr unordered)).elim
  | «optional» _ ih => exact .optional (ih (mt Ty.Unordered.optional_iff.mpr ordered))

namespace DataModel

/-- Wherever an ordered set stands in a text, its element has an order and is closed behind. -/
def OrderedWithin (text : List Char) : Prop :=
  ∀ before rest, text = before ++ '<' :: rest → "BTreeSet".toList <:+ before →
    ∃ element after, rest = element.toList ++ '>' :: after ∧ OrderedText element

theorem OrderedWithin.of_flat {text : List Char} (flat : '<' ∉ text) : OrderedWithin text := by
  rintro before rest rfl -
  exact (flat (by simp)).elim

/-- The text of a generic type opens at its own bracket, or inside of its argument. -/
theorem generic_split {head inner before rest : List Char} (flat : '<' ∉ head)
    (split : head ++ '<' :: inner ++ ['>'] = before ++ '<' :: rest) :
    before = head ∧ rest = inner ++ ['>'] ∨
      ∃ before' rest', before = head ++ '<' :: before' ∧ rest = rest' ++ ['>'] ∧
        inner = before' ++ '<' :: rest' := by
  rw [List.append_assoc] at split
  rcases List.append_eq_append_iff.mp split with ⟨middle, rfl, inside⟩ | ⟨middle, rfl, inside⟩
  · cases middle with
    | nil =>
      obtain ⟨-, same⟩ := List.cons.inj inside
      exact .inl ⟨List.append_nil _, same.symm⟩
    | cons c middle =>
      obtain ⟨rfl, inside⟩ : '<' = c ∧ inner ++ ['>'] = middle ++ '<' :: rest := by
        simpa using inside
      -- The text ends in the closing bracket, so that what follows the inner one does too.
      cases rest using List.reverseRecOn with
      | nil =>
        obtain ⟨-, bracket⟩ := List.append_inj' inside rfl
        simp at bracket
      | append_singleton rest' last =>
        have whole : inner ++ ['>'] = (middle ++ '<' :: rest') ++ [last] := by simpa using inside
        obtain ⟨rfl, bracket⟩ := List.append_inj' whole rfl
        obtain ⟨rfl, -⟩ := List.cons.inj bracket
        exact .inr ⟨middle, rest', rfl, rfl, rfl⟩
  · cases middle with
    | nil =>
      obtain ⟨-, same⟩ := List.cons.inj inside
      exact .inl ⟨(List.append_nil _).symm, same⟩
    | cons c middle =>
      obtain ⟨rfl, -⟩ := List.cons.inj inside
      exact (flat (by simp)).elim

/-- What a word before a bracket ends in, behind another bracket, it ends in without. -/
theorem suffix_behind {word head rest : List Char} (flat : '<' ∉ word)
    (suffix : word <:+ head ++ '<' :: rest) : word <:+ rest := by
  have behind : rest <:+ head ++ '<' :: rest := ⟨head ++ ['<'], by simp⟩
  rcases List.suffix_or_suffix_of_suffix suffix behind with shorter | longer
  · exact shorter
  · obtain ⟨more, rfl⟩ := longer
    cases more using List.reverseRecOn with
    | nil => exact List.suffix_refl _
    | append_singleton more last =>
      have whole : (more ++ [last]) ++ rest <:+ (head ++ ['<']) ++ rest := by simpa using suffix
      obtain ⟨outer, same⟩ := whole
      have same : (outer ++ more) ++ [last] = head ++ ['<'] := by
        simpa [← List.append_assoc] using same
      obtain ⟨-, last⟩ := List.append_inj' same rfl
      obtain ⟨rfl, -⟩ := List.cons.inj last
      exact (flat (by simp)).elim

/-- In a generic type stand the ordered sets of its argument, and itself if it is one. -/
theorem OrderedWithin.generic {inner : String} {head : List Char} (flat : '<' ∉ head)
    (within : OrderedWithin inner.toList) (own : "BTreeSet".toList <:+ head → OrderedText inner) :
    OrderedWithin (head ++ '<' :: inner.toList ++ ['>']) := by
  intro before rest split suffix
  rcases generic_split flat split with ⟨rfl, rfl⟩ | ⟨before', rest', rfl, rfl, inside⟩
  · exact ⟨inner, [], rfl, own suffix⟩
  · obtain ⟨element, after, rfl, ordered⟩ :=
      within before' rest' inside (suffix_behind (by decide) suffix)
    exact ⟨element, after ++ ['>'], by simp, ordered⟩

theorem Word.unbracketed {s : String} (word : Word s) : '<' ∉ s.toList := by
  intro member
  have unlike : isWordChar '<' = false := by decide
  exact absurd (word.chars _ member) (by simp [unlike])

end DataModel

/-- The types that are written as options are the optional ones. -/
theorem Ty.WrittenAs.option_iff {ty : Ty} {s : String} (written : ty.WrittenAs s) :
    (∃ inner, s = "Option<" ++ inner ++ ">") ↔ ty.isOptional = true := by
  have unlike (word : Word s) : ¬ ∃ inner, s = "Option<" ++ inner ++ ">" := by
    rintro ⟨inner, rfl⟩
    exact word.unbracketed (by simp)
  have differs {text : String} (inner : String) (start : text.toList.head? ≠ some 'O') :
      text ≠ "Option<" ++ inner ++ ">" := by
    rintro rfl
    exact start (by simp)
  cases written with
  | text => simpa [Ty.isOptional] using fun inner => differs inner (by decide)
  | number => simpa [Ty.isOptional] using fun inner => differs inner (by decide)
  | record word => simpa [Ty.isOptional] using unlike word
  | oneOf word => simpa [Ty.isOptional] using unlike word
  | list => simp [Ty.isOptional, differs]
  | orderedSet => simp [Ty.isOptional, differs]
  | set => simp [Ty.isOptional, differs]
  | «optional» => simp [Ty.isOptional]

theorem Ty.WrittenAs.orderedWithin {ty : Ty} {s : String} (written : ty.WrittenAs s) :
    OrderedWithin s.toList := by
  have short (head : List Char) (less : head.length < 8) (inner : String) :
      "BTreeSet".toList <:+ head → OrderedText inner := by
    intro suffix
    have length := suffix.length_le
    simp only [String.reduceToList, List.length_cons, List.length_nil] at length
    omega
  induction written with
  | text => exact .of_flat (by decide)
  | number => exact .of_flat (by decide)
  | record word => exact .of_flat word.unbracketed
  | oneOf word => exact .of_flat word.unbracketed
  | @list _ s _ ih => simpa using ih.generic (by decide) (short "Vec".toList (by decide) s)
  | orderedSet ordered element ih =>
    have unbracketed : '<' ∉ "BTreeSet".toList := by decide
    simpa using ih.generic unbracketed fun _ => element.ordered ordered
  | @set _ s _ _ ih => simpa using ih.generic (by decide) (short "Vec".toList (by decide) s)
  | @«optional» _ s _ ih => simpa using ih.generic (by decide) (short "Option".toList (by decide) s)

/-- The text of a type, whatever the draft and the hint it is written with: every set in it is an
ordered one exactly if its elements contain no number, record or union at any depth, and wherever an
ordered set stands in the text its element is written with text, lists, ordered sets and options
alone. -/
theorem Ty.typeExpr_orders (ty : Ty) (hint : String) (draft : Draft) :
    let text := (ty.typeExpr hint draft).1.source
    ty.WrittenAs text ∧ ∀ before rest, text = before ++ "BTreeSet<" ++ rest →
      ∃ element after, rest = element ++ ">" ++ after ∧ OrderedText element := by
  intro text
  have written := Ty.typeExpr_written ty hint draft
  refine ⟨written, fun before rest split => ?_⟩
  have split : text.toList = (before.toList ++ "BTreeSet".toList) ++ '<' :: rest.toList := by
    simpa using congrArg String.toList split
  obtain ⟨element, after, same, ordered⟩ :=
    written.orderedWithin _ _ split (List.suffix_append _ _)
  refine ⟨element, String.ofList after, String.toList_injective ?_, ordered⟩
  simpa using same

example : ((Ty.set (.optional (.set (.leaf .number)))).typeExpr "" .empty).1.source =
    "Vec<Option<Vec<f64>>>" := by rfl

end SchemaTypes
