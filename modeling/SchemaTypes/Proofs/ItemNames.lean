import SchemaTypes.Proofs.SourceLines

/-! What items are called. Every name is an identifier, and it is kept apart from the names of other
items, but from nothing else: a root, or a field that holds a record or a union, gives an item any name
that it spells, also one that the source reserves or refers to. A number behind a name, or an arm's
behind that of its union, keeps it from being such a word, so that no other items are concerned. -/
namespace SchemaTypes

open DataModel

namespace DataModel

/-- A capital letter, and ASCII letters and digits behind it. -/
def Identifier (name : String) : Prop :=
  ∃ first rest, name.toList = first :: rest ∧ isUpper first = true ∧
    ∀ c ∈ rest, isAlphanumeric c = true

/-- Words that no item can be called: those that no field can be called, the one for the type at
hand, and those that are kept for later. -/
def reservedWords : List String := keywords ++ [
  "Self", "abstract", "become", "do", "final", "macro", "override", "priv", "try", "typeof",
  "unsized", "virtual"]

/-- The names of other things in the source: what is imported, and the types of fields. -/
def referredNames : List String :=
  ["String", "Vec", "Option", "BTreeSet", "Serialize", "Deserialize"]

structure Usable (name : String) : Prop where
  identifier : Identifier name
  unreserved : name ∉ reservedWords
  unreferred : name ∉ referredNames

/-- No digit stands in a name. -/
def Unnumbered (name : String) : Prop := ∀ c ∈ name.toList, isDigit c = false
end DataModel

/-! ## What names items -/

/-- Whether an item is written for a type, or for what it is a list, a set or an option of. -/
def Ty.isNamed : Ty → Bool
  | .record _ => true
  | .oneOf _ => true
  | .list item => item.isNamed
  | .set item => item.isNamed
  | .optional inner => inner.isNamed
  | .leaf _ => false

mutual

/-- The names of the fields in a type, at any depth, that items are written for. -/
def Ty.holders : Ty → List String
  | .record record => record.holders
  | .oneOf arms => Ty.armHolders arms
  | .list item => item.holders
  | .set item => item.holders
  | .optional inner => inner.holders
  | .leaf _ => []

def Ty.armHolders : List Ty → List String
  | [] => []
  | arm :: rest => arm.holders ++ Ty.armHolders rest

def Record.holders : Record → List String
  | ⟨_, _, fields⟩ => Record.fieldHolders fields

def Record.fieldHolders : List Field → List String
  | [] => []
  | field :: rest => field.holders ++ Record.fieldHolders rest

def Field.holders : Field → List String
  | ⟨name, ty, _, _, _, _, _⟩ => (if ty.isNamed then [name] else []) ++ ty.holders

end

namespace DataModel

/-! ## Identifiers -/

theorem isUpper_toUpper {c : Char} : isAlphanumeric c = true →
    isDigit c = false → isUpper (toUpper c) = true :=
  forall_alphanumeric (fun c => isDigit c = false → isUpper (toUpper c) = true) (by decide) c

theorem toUpper_of_upper {c : Char} (upper : isUpper c = true) :
    toUpper c = c ∧ isDigit c = false :=
  forall_alphanumeric (fun c => isUpper c = true → toUpper c = c ∧ isDigit c = false) (by decide) c
    (isAlphanumeric_of_upper upper) upper

theorem toUpper_of_digit {c : Char} (digit : isDigit c = true) : toUpper c = c :=
  forall_alphanumeric (fun c => isDigit c = true → toUpper c = c) (by decide) c
    (isAlphanumeric_of_digit digit) digit

/-- Joined words start with a capital letter or a digit. -/
theorem joinWords_starts {text rest : List Char} {first : Char}
    (joined : joinWords true text = first :: rest) :
    isUpper first = true ∨ isDigit first = true := by
  induction text with
  | nil => cases joined
  | cons c others ih =>
    unfold joinWords at joined
    split at joined
    · next alphanumeric =>
      rw [if_pos rfl] at joined
      obtain ⟨rfl, -⟩ := List.cons.inj joined
      cases digit : isDigit c with
      | false => exact .inl (isUpper_toUpper alphanumeric digit)
      | true => exact .inr (by rw [toUpper_of_digit digit, digit])
    · exact ih joined

theorem identifier_itemName (raw : String) : Identifier (itemName raw) := by
  have letters := isAlphanumeric_joinWords true raw.toList
  unfold itemName
  cases joined : joinWords true raw.toList with
  | nil => exact ⟨'T', [], by decide, by decide, by simp⟩
  | cons first rest =>
    rw [joined] at letters
    obtain ⟨start, letters⟩ := List.forall_mem_cons.mp letters
    cases digit : startsWithDigit (first :: rest) with
    | true =>
      exact ⟨'T', first :: rest, by simp [digit], by decide,
        List.forall_mem_cons.mpr ⟨start, letters⟩⟩
    | false =>
      refine ⟨first, rest, by simp [digit], ?_, letters⟩
      rcases joinWords_starts joined with upper | number
      · exact upper
      · exact absurd (number.symm.trans digit) (by decide)

theorem joinWords_of_alphanumeric {text : List Char} (letters : ∀ c ∈ text, isAlphanumeric c = true) :
    joinWords false text = text := by
  induction text with
  | nil => rfl
  | cons c rest ih =>
    obtain ⟨letter, letters⟩ := List.forall_mem_cons.mp letters
    rw [joinWords, if_pos letter, ih letters]
    rfl

/-- An identifier names the item that is called so. -/
theorem itemName_of_identifier {name : String} (identifier : Identifier name) :
    itemName name = name := by
  obtain ⟨first, rest, text, upper, letters⟩ := identifier
  obtain ⟨same, unlike⟩ := toUpper_of_upper upper
  have joined : joinWords true name.toList = name.toList := by
    rw [text, joinWords, if_pos (isAlphanumeric_of_upper upper), joinWords_of_alphanumeric letters,
      if_pos rfl, same]
  have whole : (name.toList.isEmpty || startsWithDigit name.toList) = false := by
    rw [text]
    exact unlike
  rw [itemName, joined, whole, if_neg Bool.false_ne_true, String.ofList_toList]

/-! ## Numbers -/

theorem mem_joinWords_of_digit {text : List Char} {c : Char} (digit : isDigit c = true)
    (member : c ∈ text) (wordStart : Bool) : c ∈ joinWords wordStart text := by
  induction text generalizing wordStart with
  | nil => cases member
  | cons first rest ih =>
    unfold joinWords
    rcases List.mem_cons.mp member with rfl | member
    · rw [if_pos (isAlphanumeric_of_digit digit)]
      cases wordStart
      · exact List.mem_cons_self
      · simp [toUpper_of_digit digit]
    · split
      · exact List.mem_cons_of_mem _ (ih member false)
      · exact ih member true

theorem exists_digit (n : Nat) : ∃ c ∈ (toString n).toList, isDigit c = true := by
  have some : (toString n).toList ≠ [] := by
    simp
  obtain ⟨c, rest, text⟩ := List.exists_cons_of_ne_nil some
  have member : c ∈ (toString n).toList := text ▸ List.mem_cons_self
  exact ⟨c, member, isDigit_toString c member⟩

theorem not_unnumbered {base separator : String} {n : Nat} :
    ¬ Unnumbered (numbered base separator n) := by
  intro plain
  obtain ⟨c, member, digit⟩ := exists_digit n
  rw [Unnumbered, numbered, String.toList_append] at plain
  have unlike := plain c (List.mem_append_right _ member)
  exact absurd (digit.symm.trans unlike) (by decide)

theorem mem_prefixed {c first : Char} {marked : Bool} {text : List Char} (member : c ∈ text) :
    c ∈ if marked then first :: text else text := by
  cases marked
  · exact member
  · exact List.mem_cons_of_mem _ member

/-- The number of an arm stays in the name of the item for it. -/
theorem not_unnumbered_arm {name : String} {index : Nat} :
    ¬ Unnumbered (itemName (name ++ "V" ++ toString index)) := by
  intro plain
  obtain ⟨c, member, digit⟩ := exists_digit index
  have written : c ∈ (name ++ "V" ++ toString index).toList := by
    rw [String.toList_append]
    exact List.mem_append_right _ member
  have joined := mem_joinWords_of_digit digit written true
  rw [Unnumbered, itemName, String.toList_ofList] at plain
  exact absurd (digit.symm.trans (plain c (mem_prefixed joined))) (by decide)

/-- The next free variant of a name that is taken has a number. -/
theorem nextFree_cases (taken : List String) (base separator : String) :
    base ∉ taken ∧ nextFree taken base separator = base ∨
      base ∈ taken ∧ ∃ n, nextFree taken base separator = numbered base separator n := by
  have searched (bound n : Nat) : ∃ m, firstFree taken base separator bound n =
      numbered base separator m := by
    induction bound generalizing n with
    | zero => exact ⟨n, rfl⟩
    | succ bound ih =>
      unfold firstFree
      split
      · exact ih (n + 1)
      · exact ⟨n, rfl⟩
  unfold nextFree
  split
  · next known => exact .inr ⟨List.contains_iff_mem.mp known, searched _ _⟩
  · next free => exact .inl ⟨fun member => free (List.contains_iff_mem.mpr member), rfl⟩

theorem Identifier.nextFree {base : String} (identifier : Identifier base) (taken : List String) :
    Identifier (nextFree taken base "") := by
  rcases nextFree_cases taken base "" with ⟨-, same⟩ | ⟨-, n, same⟩
  · rw [same]
    exact identifier
  · obtain ⟨first, rest, text, upper, letters⟩ := identifier
    refine ⟨first, rest ++ (toString n).toList, ?_, upper, List.forall_mem_append.mpr ⟨letters,
      fun c member => isAlphanumeric_of_digit (isDigit_toString c member)⟩⟩
    rw [same, numbered, String.append_empty, String.toList_append, text]
    rfl

namespace Draft

variable {before middle after : Draft} {hints others : List String} {hint word : String}

theorem identifier_claim (hint : String) (draft : Draft) : Identifier (claim hint draft).1 :=
  (identifier_itemName hint).nextFree draft.taken

/-- A name without digits is taken when it was, or when it is what the hint spells. -/
theorem mem_claim (plain : Unnumbered word) :
    word ∈ (claim hint before).2.taken ↔ word ∈ before.taken ∨ itemName hint = word := by
  show word ∈ nextFree before.taken (itemName hint) "" :: before.taken ↔ _
  rw [List.mem_cons]
  rcases nextFree_cases before.taken (itemName hint) "" with ⟨-, same⟩ | ⟨known, n, same⟩
  · rw [same, or_comm, eq_comm]
  · have differ : word ≠ numbered (itemName hint) "" n := by
      rintro rfl
      exact not_unnumbered plain
    rw [same]
    refine ⟨fun member => .inl (member.resolve_left differ), fun member => .inr ?_⟩
    rcases member with member | rfl
    · exact member
    · exact known

/-- What is written under some hints takes, of the names without digits, those that they spell, and
of all names only those of items. -/
structure Titles (before : Draft) (hints : List String) (after : Draft) : Prop where
  items : before.items ⊆ after.items
  plain : ∀ word, Unnumbered word →
    (word ∈ after.taken ↔ word ∈ before.taken ∨ ∃ hint ∈ hints, itemName hint = word)
  written : ∀ name ∈ after.taken, name ∈ before.taken ∨ name ∈ after.items.map Item.name
  identifiers : ∀ name ∈ after.taken, name ∈ before.taken ∨ Identifier name

namespace Titles

theorem refl (draft : Draft) : Titles draft [] draft :=
  ⟨List.Subset.refl _, by simp, fun _ => .inl, fun _ => .inl⟩

theorem trans (first : Titles before hints middle) (second : Titles middle others after) :
    Titles before (hints ++ others) after where
  items := List.Subset.trans first.items second.items
  plain word plain := by
    rw [second.plain word plain, first.plain word plain, or_assoc]
    simp only [List.mem_append, or_and_right, exists_or]
  written name member := by
    rcases second.written name member with known | item
    · rcases first.written name known with known | item
      · exact .inl known
      · exact .inr (List.map_subset _ second.items item)
    · exact .inr item
  identifiers name member :=
    (second.identifiers name member).elim (first.identifiers name) .inr

/-- An item whose name was taken before its parts were written. -/
theorem claimed {item : Item} (named : item.name = (claim hint before).1)
    (parts : Titles (claim hint before).2 hints middle) :
    Titles before (hint :: hints) (write item middle).2 where
  items := fun other member => List.mem_append_left _ (parts.items member)
  plain word plain := by
    show word ∈ middle.taken ↔ _
    rw [parts.plain word plain, mem_claim plain, or_assoc]
    simp
  written name member := by
    rw [show (write item middle).2.items = middle.items ++ [item] from rfl, List.map_append]
    rcases parts.written name member with known | item
    · rcases List.mem_cons.mp known with same | known
      · refine .inr (List.mem_append_right _ ?_)
        rw [List.map_singleton, named, same]
        exact List.mem_cons_self
      · exact .inl known
    · exact .inr (List.mem_append_left _ item)
  identifiers name member := by
    rcases parts.identifiers name member with known | identifier
    · rcases List.mem_cons.mp known with rfl | known
      · exact .inr (identifier_claim hint before)
      · exact .inl known
    · exact .inr identifier

/-- A hint that spells no name without digits but what is taken adds none. -/
theorem drop (titles : Titles before (hints ++ others) after)
    (known : ∀ hint ∈ hints, Unnumbered (itemName hint) → itemName hint ∈ before.taken) :
    Titles before others after where
  items := titles.items
  plain word plain := by
    rw [titles.plain word plain]
    constructor
    · rintro (member | ⟨hint, member, rfl⟩)
      · exact .inl member
      · rcases List.mem_append.mp member with member | member
        · exact .inl (known hint member plain)
        · exact .inr ⟨hint, member, rfl⟩
    · rintro (member | ⟨hint, member, same⟩)
      · exact .inl member
      · exact .inr ⟨hint, List.mem_append_right _ member, same⟩
  written := titles.written
  identifiers := titles.identifiers

end Titles

end Draft

end DataModel

/-! ## Writing types -/

/-- The hint that a type is written under counts if an item is written for it. -/
def Ty.hints (ty : Ty) (hint : String) : List String :=
  (if ty.isNamed then [hint] else []) ++ ty.holders

mutual

theorem Ty.typeExpr_titles : ∀ (ty : Ty) (hint : String) (draft : Draft),
    draft.Titles (ty.hints hint) (ty.typeExpr hint draft).2
  | .record ⟨_, _, fields⟩, hint, draft =>
    .claimed rfl (Record.fieldItems_titles fields [] (Draft.claim hint draft).2)
  | .oneOf arms, hint, draft =>
    .claimed rfl (Ty.armExprs_titles arms (Draft.claim hint draft).1 0 (Draft.claim hint draft).2)
  | .list item, hint, draft => Ty.typeExpr_titles item hint draft
  | .set item, hint, draft => Ty.typeExpr_titles item hint draft
  | .optional inner, hint, draft => Ty.typeExpr_titles inner hint draft
  | .leaf _, _, draft => .refl draft

theorem Ty.armExprs_titles : ∀ (arms : List Ty) (name : String) (index : Nat) (draft : Draft),
    draft.Titles (Ty.armHolders arms) (Ty.armExprs name index arms draft).2
  | [], _, _, draft => .refl draft
  | arm :: rest, name, index, draft => by
    have first := (Ty.typeExpr_titles arm (name ++ "V" ++ toString index) draft).drop ?_
    · exact first.trans (Ty.armExprs_titles rest name (index + 1) _)
    · intro hint member plain
      split at member
      · rw [List.mem_singleton.mp member] at plain
        exact (not_unnumbered_arm plain).elim
      · cases member

theorem Record.fieldItems_titles : ∀ (fields : List Field) (idents : List String) (draft : Draft),
    draft.Titles (Record.fieldHolders fields) (Record.fieldItems idents fields draft).2
  | [], _, draft => .refl draft
  | field :: rest, idents, draft =>
    (Field.typeExpr_titles field draft).trans
      (Record.fieldItems_titles rest (nextFree idents (fieldIdent field.name) "_" :: idents) _)

theorem Field.typeExpr_titles : ∀ (field : Field) (draft : Draft),
    draft.Titles field.holders (field.typeExpr draft).2
  | ⟨name, ty, _, _, _, _, _⟩, draft => Ty.typeExpr_titles ty name draft

end

namespace DataModel.Draft

/-- What is no item of its own is written under the name that its alias has taken. -/
theorem alias_titles (ty : Ty) (root : String) (draft : Draft) :
    let named := claim root draft
    let written := ty.typeExpr named.1 named.2
    draft.Titles (root :: ty.holders) (write (.alias named.1 written.1) written.2).2 := by
  intro named written
  have inner := (Ty.typeExpr_titles ty named.1 named.2).drop ?_
  · exact .claimed rfl inner
  · intro hint member _
    split at member
    · rw [List.mem_singleton.mp member, itemName_of_identifier (identifier_claim root draft)]
      exact List.mem_cons_self
    · cases member

theorem emit_titles (ty : Ty) (root : String) (draft : Draft) :
    draft.Titles (root :: ty.holders) (emit ty root draft).2 := by
  cases ty with
  | record record => exact Ty.typeExpr_titles (.record record) root draft
  | oneOf arms => exact Ty.typeExpr_titles (.oneOf arms) root draft
  | list item => exact alias_titles (.list item) root draft
  | set item => exact alias_titles (.set item) root draft
  | optional inner => exact alias_titles (.optional inner) root draft
  | leaf leaf => exact alias_titles (.leaf leaf) root draft

/-- The roots of some calls, and the names of the fields in their types that items are written for. -/
def hints (calls : List (Ty × String)) : List String :=
  calls.flatMap fun call => call.2 :: call.1.holders

theorem emits_titles (calls : List (Ty × String)) (draft : Draft) :
    draft.Titles (hints calls)
      (calls.foldl (fun draft call => (emit call.1 call.2 draft).2) draft) := by
  induction calls generalizing draft with
  | nil => exact .refl draft
  | cons call rest ih => exact (emit_titles call.1 call.2 draft).trans (ih _)

/-- Every item is called by an identifier. A word without digits is the name of an item exactly if
some root, or some field that an item is written for, spells it. -/
theorem ofCalls_names (calls : List (Ty × String)) :
    (∀ item ∈ (ofCalls calls).items, Identifier item.name) ∧
      ∀ word, Unnumbered word → (word ∈ (ofCalls calls).items.map Item.name ↔
        ∃ hint ∈ hints calls, itemName hint = word) := by
  have titles := emits_titles calls .empty
  obtain ⟨segments, adds, -⟩ := emits_adds calls .empty
  have items : (ofCalls calls).items = segments.flatten := adds.items
  have taken {name : String} :
      name ∈ (ofCalls calls).items.map Item.name ↔ name ∈ (ofCalls calls).taken := by
    refine ⟨fun member => adds.taken (items ▸ member), fun member => ?_⟩
    exact (titles.written name member).resolve_left List.not_mem_nil
  refine ⟨fun item member => ?_, fun word plain => ?_⟩
  · have member := taken.mp (List.mem_map_of_mem member)
    exact (titles.identifiers item.name member).resolve_left List.not_mem_nil
  · rw [taken, ofCalls, titles.plain word plain]
    simp [empty]

/-- The words that stand for something else in the source and could be spelled as an item's name. -/
def exposedWords : List String := "Self" :: referredNames

theorem unnumbered_exposed : ∀ word ∈ exposedWords, Unnumbered word := by
  have letters : exposedWords.all (fun word => word.toList.all fun c => !isDigit c) = true := by rfl
  intro word member c inside
  simpa using List.all_eq_true.mp (List.all_eq_true.mp letters word member) c inside

theorem usable_of_identifier {name : String} (identifier : Identifier name)
    (free : name ∉ exposedWords) : Usable name := by
  obtain ⟨self, unreferred⟩ := not_or.mp (mt List.mem_cons.mpr free)
  refine ⟨identifier, fun reserved => ?_, unreferred⟩
  -- All other reserved words start with a small letter.
  have small : reservedWords.all (fun word => word == "Self" || !word.toList.head?.any isUpper) =
      true := by rfl
  have start := List.all_eq_true.mp small name reserved
  obtain ⟨first, rest, text, upper, -⟩ := identifier
  simp [self, text, upper] at start

/-- Every item is called by a name that can be used, but for those that a root, or a field that an
item is written for, spells as the word for the type at hand or as something that the source refers to:
such a word is always taken as it is. -/
theorem ofCalls_usable (calls : List (Ty × String)) :
    (∀ item ∈ (ofCalls calls).items, Usable item.name ∨
      item.name ∈ exposedWords ∧ ∃ hint ∈ hints calls, itemName hint = item.name) ∧
      ∀ hint ∈ hints calls, itemName hint ∈ exposedWords →
        ∃ item ∈ (ofCalls calls).items, item.name = itemName hint ∧ ¬ Usable item.name := by
  obtain ⟨identifiers, spelled⟩ := ofCalls_names calls
  refine ⟨fun item member => ?_, fun hint member exposed => ?_⟩
  · by_cases exposed : item.name ∈ exposedWords
    · have written := List.mem_map_of_mem (f := Item.name) member
      exact .inr ⟨exposed, (spelled _ (unnumbered_exposed _ exposed)).mp written⟩
    · exact .inl (usable_of_identifier (identifiers item member) exposed)
  · have written := (spelled _ (unnumbered_exposed _ exposed)).mpr ⟨hint, member, rfl⟩
    obtain ⟨item, inside, name⟩ := List.mem_map.mp written
    refine ⟨item, inside, name, fun usable => ?_⟩
    rcases List.mem_cons.mp exposed with self | referred
    · exact usable.unreserved (name ▸ self ▸ by decide)
    · exact usable.unreferred (name ▸ referred)

theorem ofCalls_unusable :
    (ofCalls [(.leaf .string, "string")]).items = [.alias "String" .text] ∧
      (ofCalls [(.record ⟨none, none, []⟩, "self")]).items = [.record "Self" none none []] ∧
      ¬ ∀ calls, ∀ item ∈ (ofCalls calls).items, Usable item.name := by
  have string : (ofCalls [(.leaf .string, "string")]).items = [.alias "String" .text] := by rfl
  have self : (ofCalls [(.record ⟨none, none, []⟩, "self")]).items =
      [.record "Self" none none []] := by rfl
  refine ⟨string, self, fun usable => ?_⟩
  have taken := usable [(.leaf .string, "string")] (.alias "String" .text)
    (string ▸ List.mem_cons_self)
  exact taken.unreferred (by decide)

end DataModel.Draft

end SchemaTypes
