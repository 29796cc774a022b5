import Mathlib.Data.List.TakeWhile
import SchemaTypes.Proofs.StructReading

/-! Reading a data model back from its source text. A reader goes through the lines of the source and
takes down what they define: structs with their fields, enums with their variants, and aliases. It has to
make out every line that it meets. In the source of some types it finds an item for each of them and for
each record and union below, in front of all its uses and under a name of its own. -/
namespace SchemaTypes

open DataModel

namespace DataModel

/-! ## The reader -/

/-- What stands in a line outside of all braces. -/
inductive ModelLine where
  | aside
  | struct (name : String)
  | enum (name : String)
  | alias (name type : String)

namespace ModelLine

/-- Nothing, a comment, an attribute or an import. -/
def isAside (l : List Char) : Bool :=
  l.isEmpty || ["//", "#", "use "].any fun start => start.toList.isPrefixOf l

/-- The name up to an equals sign, and the type behind it up to the semicolon at the end. -/
def alias? (text : List Char) : Option ModelLine :=
  ((text.dropWhile isWordChar).dropPrefix? " = ".toList).bind fun type =>
    (type.dropSuffix? ";".toList).map fun type =>
      .alias (String.ofList (text.takeWhile isWordChar)) (String.ofList type)

def read? (l : List Char) : Option ModelLine :=
  if isAside l then some .aside
  else ((blockName? "pub struct " l).map .struct).or
    (((blockName? "pub enum " l).map .enum).or ((l.dropPrefix? "pub type ".toList).bind alias?))

end ModelLine

/-- The type between the brackets of a numbered variant. -/
def variant? (l : List Char) : Option String :=
  (l.dropPrefix? "    V".toList).bind fun text =>
    ((text.dropWhile isDigit).dropPrefix? "(".toList).bind fun type =>
      (type.dropSuffix? "),".toList).map String.ofList

/-- The variants in the lines up to the closing brace. -/
def readVariants : List (List Char) → Option (List String)
  | [] => none
  | l :: rest =>
    if l = "\x7d".toList then some []
    else (variant? l).bind fun type => (readVariants rest).map (type :: ·)

/-- The items in some lines. What is inside of braces is read where they open, and passed over then. -/
def readItems (inside : Bool) : List (List Char) → Option (List Signature)
  | [] => some []
  | l :: rest =>
    if inside then readItems (l ≠ "\x7d".toList) rest
    else match ModelLine.read? l with
      | some .aside => readItems false rest
      | some (.struct name) =>
        (readFields .none rest).bind fun fields =>
          (readItems true rest).map (.struct name fields :: ·)
      | some (.enum name) =>
        (readVariants rest).bind fun variants =>
          (readItems true rest).map (.enum name variants :: ·)
      | some (.alias name type) => (readItems false rest).map (.alias name type :: ·)
      | none => none

/-- What a source text defines. -/
def readModel (source : String) : Option (List Signature) :=
  readItems false (Text.pieces '\n' source.toList)

/-! ## Lines that are read -/

theorem readItems_inside (lines : List (List Char)) :
    readItems true lines = readItems false (linesBehind lines) := by
  induction lines with
  | nil => rfl
  | cons l rest ih =>
    by_cases closes : l = "\x7d".toList
    · subst closes
      rfl
    · have goes : decide (l ≠ "\x7d".toList) = true := decide_eq_true closes
      rw [readItems, if_pos rfl, linesBehind_cons closes, goes, ih]

variable {rest s : String}

theorem readModel_line (flat : '\n' ∉ s.toList) :
    readModel (line s ++ rest) = readItems false (s.toList :: Text.pieces '\n' rest.toList) := by
  rw [readModel, pieces_line flat]

theorem readModel_aside (flat : '\n' ∉ s.toList) (aside : ModelLine.isAside s.toList = true) :
    readModel (line s ++ rest) = readModel rest := by
  have form : ModelLine.read? s.toList = some .aside := if_pos aside
  rw [readModel_line flat, readItems, form]
  rfl

theorem readModel_comment (text : Option String) :
    readModel (comment "" text ++ rest) = readModel rest := by
  refine skips_comment (fun text rest flat => ?_) text rest
  exact readModel_aside (by simpa using flat) (by simp [ModelLine.isAside])

theorem readModel_commentGap (title description : Option String) :
    readModel (commentGap title description ++ rest) = readModel rest := by
  unfold commentGap
  split
  · exact readModel_aside (by decide) (by decide)
  · rw [String.empty_append]

theorem readModel_header : readModel (header ++ rest) = readModel rest := by
  simp only [header, String.append_assoc]
  rw [readModel_aside (by decide) (by decide), readModel_aside (by decide) (by decide),
    readModel_aside (by decide) (by decide), readModel_aside (by decide) (by decide),
    readModel_aside (by decide) (by decide)]

/-! ## Structs -/

theorem readModel_openStruct {name : String} (word : Word name) (rest : String) :
    readModel (line ("pub struct " ++ name ++ " \x7b") ++ rest) =
      (readBody .none rest).bind fun read =>
        (readItems false read.2).map (.struct name read.1 :: ·) := by
  have form : ModelLine.read? ("pub struct " ++ name ++ " \x7b").toList = some (.struct name) := by
    rw [ModelLine.read?, if_neg (by simp [ModelLine.isAside]), blockName?_open word]
    rfl
  have whole : '\n' ∉ ("pub struct " ++ name ++ " \x7b").toList := by simpa using word.flat
  rw [readModel_line whole, readItems, form, readBody, takeFields, Option.bind_map,
    readItems_inside]
  rfl

theorem readModel_record {name : String} {title description : Option String}
    {fields : List FieldItem} (word : Word name)
    (each : ∀ field ∈ fields, Word field.ident ∧ TypeText field.type.source) :
    readModel ((Item.record name title description fields).source ++ rest) =
      (readModel rest).map (.struct name (fields.map FieldItem.declaration) :: ·) := by
  have flat : ∀ field ∈ fields, Word field.ident ∧ '\n' ∉ field.type.source.toList :=
    fun field member => ⟨(each field member).1, (each field member).2.flat⟩
  simp only [Item.source, String.append_assoc]
  rw [readModel_aside (by decide) (by decide), readModel_comment, readModel_commentGap,
    readModel_comment, readModel_aside (by decide) (by decide)]
  have opened := readModel_openStruct word
    (String.join (fields.map FieldItem.source) ++ (line "\x7d" ++ rest))
  rw [readBody_fields flat, Option.bind_some, String.append_assoc] at opened
  exact opened

/-! ## Enums -/

theorem variant?_arm {type : String} (index : Nat) :
    variant? (fieldIndent ++ "V" ++ toString index ++ "(" ++ type ++ "),").toList = some type := by
  have text : (fieldIndent ++ "V" ++ toString index ++ "(" ++ type ++ "),").toList =
      "    V".toList ++ ((toString index).toList ++ '(' :: (type.toList ++ "),".toList)) := by
    simp [fieldIndent]
  have behind : ((toString index).toList ++ '(' :: (type.toList ++ "),".toList)).dropWhile isDigit =
      '(' :: (type.toList ++ "),".toList) := by
    rw [List.dropWhile_append_of_pos isDigit_toString]
    exact List.dropWhile_cons_of_neg (by decide)
  have bracket : ('(' :: (type.toList ++ "),".toList)).dropPrefix? "(".toList =
      some (type.toList ++ "),".toList) :=
    dropPrefix?_self "(".toList _
  rw [text, variant?, dropPrefix?_self, Option.bind_some, behind, bracket, Option.bind_some,
    dropSuffix?_self, Option.map_some, String.ofList_toList]

/-- The text of some arms reads as their types, up to the closing brace. -/
theorem readVariants_arms {arms : List TypeExpr} (types : ∀ arm ∈ arms, TypeText arm.source)
    (index : Nat) (rest : String) :
    readVariants (Text.pieces '\n' (armsSource index arms ++ (line "\x7d" ++ rest)).toList) =
        some (arms.map TypeExpr.source) ∧
      linesBehind (Text.pieces '\n' (armsSource index arms ++ (line "\x7d" ++ rest)).toList) =
        Text.pieces '\n' rest.toList := by
  induction arms generalizing index with
  | nil =>
    rw [armsSource, String.empty_append, pieces_line (by decide)]
    exact ⟨rfl, rfl⟩
  | cons arm arms ih =>
    obtain ⟨type, others⟩ := List.forall_mem_cons.mp types
    obtain ⟨read, behind⟩ := ih others (index + 1)
    have goes : (fieldIndent ++ "V" ++ toString index ++ "(" ++ arm.source ++ "),").toList ≠
        "\x7d".toList := by simp [fieldIndent]
    have flat : '\n' ∉ (fieldIndent ++ "V" ++ toString index ++ "(" ++ arm.source ++ "),").toList :=
      (SourceLine.variant index type).flat
    rw [armsSource, String.append_assoc, pieces_line flat, linesBehind_cons goes, readVariants,
      if_neg goes, variant?_arm, Option.bind_some, read]
    exact ⟨rfl, behind⟩

theorem readModel_openEnum {name : String} (word : Word name) (rest : String) :
    readModel (line ("pub enum " ++ name ++ " \x7b") ++ rest) =
      (readVariants (Text.pieces '\n' rest.toList)).bind fun variants =>
        (readItems false (linesBehind (Text.pieces '\n' rest.toList))).map
          (.enum name variants :: ·) := by
  have form : ModelLine.read? ("pub enum " ++ name ++ " \x7b").toList = some (.enum name) := by
    have other : blockName? "pub struct " ("pub enum " ++ name ++ " \x7b").toList = none :=
      blockName?_other (by simp [List.dropPrefix?])
    rw [ModelLine.read?, if_neg (by simp [ModelLine.isAside]), other, blockName?_open word]
    rfl
  rw [readModel_line (SourceLine.enum word).flat, readItems, form, readItems_inside]
  rfl

theorem readModel_union {name : String} {arms : List TypeExpr} (word : Word name)
    (types : ∀ arm ∈ arms, TypeText arm.source) :
    readModel ((Item.union name arms).source ++ rest) =
      (readModel rest).map (.enum name (arms.map TypeExpr.source) :: ·) := by
  obtain ⟨read, behind⟩ := readVariants_arms types 0 rest
  simp only [Item.source, String.append_assoc]
  rw [readModel_aside (by decide) (by decide), readModel_aside (by decide) (by decide),
    readModel_aside (by decide) (by decide)]
  have opened := readModel_openEnum word (armsSource 0 arms ++ (line "\x7d" ++ rest))
  rw [read, behind, Option.bind_some, String.append_assoc] at opened
  exact opened

/-! ## Aliases -/

theorem readModel_alias {name : String} {type : TypeExpr} (word : Word name)
    (typeText : TypeText type.source) :
    readModel ((Item.alias name type).source ++ rest) =
      (readModel rest).map (.alias name type.source :: ·) := by
  have text : ("pub type " ++ name ++ " = " ++ type.source ++ ";").toList =
      "pub type ".toList ++
        (name.toList ++ ' ' :: '=' :: ' ' :: (type.source.toList ++ ";".toList)) := by
    simp
  obtain ⟨same, behind⟩ := takeWhile_word word.chars (show isWordChar ' ' = false by decide)
    ('=' :: ' ' :: (type.source.toList ++ ";".toList))
  have equals : (' ' :: '=' :: ' ' :: (type.source.toList ++ ";".toList)).dropPrefix? " = ".toList =
      some (type.source.toList ++ ";".toList) := dropPrefix?_self " = ".toList _
  have form : ModelLine.read? ("pub type " ++ name ++ " = " ++ type.source ++ ";").toList =
      some (.alias name type.source) := by
    rw [ModelLine.read?, if_neg (by simp [ModelLine.isAside]),
      blockName?_other (by simp [List.dropPrefix?]), blockName?_other (by simp [List.dropPrefix?]),
      text, dropPrefix?_self, Option.bind_some, ModelLine.alias?, same, behind, equals,
      Option.bind_some, dropSuffix?_self]
    simp
  simp only [Item.source, String.append_assoc]
  rw [readModel_aside (by decide) (by decide)]
  have read : readModel (line ("pub type " ++ name ++ " = " ++ type.source ++ ";") ++ rest) =
      (readModel rest).map (.alias name type.source :: ·) := by
    rw [readModel_line (SourceLine.alias word typeText).flat, readItems, form]
    rfl
  simpa only [String.append_assoc] using read

/-! ## All items -/

theorem readModel_item {item : Item} (plain : item.Plain) (rest : String) :
    readModel (item.source ++ rest) = (readModel rest).map (item.signature :: ·) := by
  cases item with
  | record name title description fields => exact readModel_record plain.1 plain.2
  | union name arms => exact readModel_union plain.1 plain.2
  | «alias» name type => exact readModel_alias plain.1 plain.2

theorem readModel_items {items : List Item} (plain : ∀ item ∈ items, item.Plain) :
    readModel (String.join (items.map Item.source)) = some (items.map Item.signature) := by
  induction items with
  | nil => rfl
  | cons item rest ih =>
    obtain ⟨first, others⟩ := List.forall_mem_cons.mp plain
    rw [List.map_cons, String.join_cons, readModel_item first, ih others]
    rfl

/-- The source of a draft reads as its items. -/
theorem Draft.Plain.reads {draft : Draft} (plain : draft.Plain) :
    readModel draft.source = some (draft.items.map Item.signature) := by
  rw [Draft.source, readModel_header, readModel_items plain]

/-! ## Names and their uses -/

/-- What stands inside of all brackets of a type. -/
def innermost (type : String) : String :=
  String.ofList ((type.toList.reverse.takeWhile (· ≠ '<')).reverse.takeWhile (· ≠ '>'))

def Signature.types : Signature → List String
  | .struct _ fields => fields.map Declaration.type
  | .enum _ variants => variants
  | .alias _ type => [type]

/-- Inside of all brackets stands text, a number, or the name of one of some items. -/
def RefersInto (items : List Signature) (type : String) : Prop :=
  innermost type ∈ "String" :: "f64" :: items.map Signature.name

/-- Items that use the names of earlier items only. -/
def Backward (items : List Signature) : Prop :=
  ∀ before item after, items = before ++ item :: after → ∀ type ∈ item.types, RefersInto before type

theorem takeWhile_behind {α : Type} {p : α → Bool} {c : α} (stops : p c = false) (first rest : List α) :
    (first ++ c :: rest).takeWhile p = first.takeWhile p := by
  induction first with
  | nil => simp [stops]
  | cons a first ih => rw [List.cons_append, List.takeWhile_cons, List.takeWhile_cons, ih]

theorem innermost_generic {opening head : String} (opens : opening = head ++ "<") (text : String) :
    innermost (opening ++ text ++ ">") = innermost text := by
  have outside : (opening ++ text ++ ">").toList.reverse =
      '>' :: (text.toList.reverse ++ '<' :: head.toList.reverse) := by simp [opens]
  rw [innermost, outside, List.takeWhile_cons_of_pos (by decide),
    takeWhile_behind (by decide), List.reverse_cons, takeWhile_behind (by decide), innermost]

theorem innermost_word {s : String} (word : Word s) : innermost s = s := by
  have plain (mark : Char) (other : isWordChar mark = false) (c : Char) (member : c ∈ s.toList) :
      decide (c ≠ mark) = true := by
    refine decide_eq_true fun same => ?_
    rw [← same, word.chars c member] at other
    cases other
  have open' : s.toList.reverse.takeWhile (· ≠ '<') = s.toList.reverse :=
    List.takeWhile_eq_self_iff.mpr fun c member =>
      plain '<' (by decide) c (List.mem_reverse.mp member)
  have close : s.toList.takeWhile (· ≠ '>') = s.toList :=
    List.takeWhile_eq_self_iff.mpr (plain '>' (by decide))
  rw [innermost, open', List.reverse_reverse, close, String.ofList_toList]

namespace RefersInto

variable {items : List Signature} {type : String}

theorem mono {others : List Signature} (refers : RefersInto items type)
    (kept : items ⊆ others) : RefersInto others type :=
  List.cons_subset_cons _ (List.cons_subset_cons _ (List.map_subset _ kept)) refers

theorem text : RefersInto items "String" := List.mem_cons.mpr (.inl (by decide))

theorem number : RefersInto items "f64" :=
  List.mem_cons_of_mem _ (List.mem_cons.mpr (.inl (by decide)))

theorem generic (refers : RefersInto items type) {opening head : String}
    (opens : opening = head ++ "<") : RefersInto items (opening ++ type ++ ">") := by
  rwa [RefersInto, innermost_generic opens]

theorem list (refers : RefersInto items type) : RefersInto items ("Vec<" ++ type ++ ">") :=
  refers.generic (show "Vec<" = "Vec" ++ "<" by decide)

theorem orderedSet (refers : RefersInto items type) :
    RefersInto items ("BTreeSet<" ++ type ++ ">") :=
  refers.generic (show "BTreeSet<" = "BTreeSet" ++ "<" by decide)

theorem optional (refers : RefersInto items type) : RefersInto items ("Option<" ++ type ++ ">") :=
  refers.generic (show "Option<" = "Option" ++ "<" by decide)

theorem last {item : Signature} (word : Word item.name) :
    RefersInto (items ++ [item]) item.name := by
  rw [RefersInto, innermost_word word]
  simp

end RefersInto

namespace Backward

variable {items others : List Signature}

theorem nil : Backward [] := by
  intro before item after split
  cases before <;> cases split

theorem append (first : Backward items) (second : Backward others) :
    Backward (items ++ others) := by
  intro before item after split type member
  rcases List.append_eq_append_iff.mp split with ⟨middle, rfl, inner⟩ | ⟨middle, rfl, inner⟩
  · exact (second middle item after inner type member).mono (List.subset_append_right _ _)
  · cases middle with
    | nil =>
      have refers := second [] item after (by simpa using inner.symm) type member
      exact refers.mono (List.nil_subset _)
    | cons last middle =>
      obtain ⟨rfl, rfl⟩ := List.cons.inj inner
      exact first before item middle rfl type member

theorem concat {item : Signature} (backward : Backward items)
    (known : ∀ type ∈ item.types, RefersInto items type) : Backward (items ++ [item]) := by
  intro before other after split
  rcases List.eq_nil_or_concat after with rfl | ⟨after, last, rfl⟩
  · obtain ⟨rfl, same⟩ := List.append_inj' split rfl
    cases same
    exact known
  · have split : items ++ [item] = (before ++ other :: after) ++ [last] := by simpa using split
    obtain ⟨rfl, -⟩ := List.append_inj' split rfl
    exact backward before other after rfl

end Backward

end DataModel

mutual

/-- The items for a type refer to earlier ones only, and so does the text for it. -/
theorem Ty.Writes.backward {ty : Ty} {text : String} {items : List Signature} :
    ty.Writes text items → (∀ item ∈ items, Word item.name) →
      Backward items ∧ RefersInto items text
  | .text _, _ => ⟨.nil, .text⟩
  | .number, _ => ⟨.nil, .number⟩
  | .list item, words => by
    obtain ⟨backward, refers⟩ := item.backward words
    exact ⟨backward, refers.list⟩
  | .set item, words => by
    obtain ⟨backward, refers⟩ := item.backward words
    refine ⟨backward, ?_⟩
    split
    · exact refers.orderedSet
    · exact refers.list
  | .optional inner, words => by
    obtain ⟨backward, refers⟩ := inner.backward words
    exact ⟨backward, refers.optional⟩
  | .record _ parts, words => by
    obtain ⟨inside, word⟩ := List.forall_mem_append.mp words
    obtain ⟨backward, known⟩ := parts.backward inside
    exact ⟨backward.concat known, .last (word _ List.mem_cons_self)⟩
  | .oneOf parts, words => by
    obtain ⟨inside, word⟩ := List.forall_mem_append.mp words
    obtain ⟨backward, known⟩ := parts.backward inside
    exact ⟨backward.concat known, .last (word _ List.mem_cons_self)⟩

theorem Ty.AllWrite.backward {types : List Ty} {texts : List String} {items : List Signature} :
    Ty.AllWrite types texts items → (∀ item ∈ items, Word item.name) →
      Backward items ∧ ∀ text ∈ texts, RefersInto items text
  | .nil, _ => ⟨.nil, List.forall_mem_nil _⟩
  | .cons first rest, words => by
    obtain ⟨here, there⟩ := List.forall_mem_append.mp words
    obtain ⟨backward, refers⟩ := first.backward here
    obtain ⟨backward', refers'⟩ := rest.backward there
    refine ⟨backward.append backward', List.forall_mem_cons.mpr ⟨?_, fun text member => ?_⟩⟩
    · exact refers.mono (List.subset_append_left _ _)
    · exact (refers' text member).mono (List.subset_append_right _ _)

end

theorem Ty.Emits.backward {ty : Ty} {items : List Signature} (emits : ty.Emits items)
    (words : ∀ item ∈ items, Word item.name) : Backward items := by
  cases emits with
  | item own writes => exact (writes.backward words).1
  | «alias» own writes =>
    obtain ⟨backward, refers⟩ := writes.backward (List.forall_mem_append.mp words).1
    exact backward.concat (List.forall_mem_singleton.mpr refers)

namespace DataModel

theorem backward_of_emits {calls : List (Ty × String)} {segments : List (List Signature)}
    (emits : List.Forall₂ (fun call segment => call.1.Emits segment) calls segments)
    (words : ∀ item ∈ segments.flatten, Word item.name) : Backward segments.flatten := by
  induction emits with
  | nil => exact .nil
  | cons first rest ih =>
    obtain ⟨here, there⟩ := List.forall_mem_append.mp words
    exact (first.backward here).append (ih there)

theorem Item.Plain.word {item : Item} (plain : item.Plain) : Word item.signature.name := by
  cases item <;> exact plain.1

/-- The source of any types under any names is closed and ordered. It defines what each of them writes in
turn: an item for the type itself and one for every record and union below its root. No two items share a
name, and whatever a field, a variant or an alias refers to is defined before it. -/
theorem Draft.ofCalls_ordered (calls : List (Ty × String)) :
    ∃ segments : List (List Signature),
      readModel (ofCalls calls).source = some segments.flatten ∧
      List.Forall₂ (fun call segment => call.1.Emits segment) calls segments ∧
      segments.flatten.length = (calls.map fun call => 1 + call.1.nested).sum ∧
      (segments.flatten.map Signature.name).Nodup ∧
      Backward segments.flatten := by
  obtain ⟨segments, adds, emits⟩ := emits_adds calls .empty
  have items : (ofCalls calls).items.map Item.signature =
      (segments.map (·.map Item.signature)).flatten := by
    rw [ofCalls, adds.items, ← List.map_flatten]
    rfl
  have emits : List.Forall₂ (fun call segment => call.1.Emits segment) calls
      (segments.map (·.map Item.signature)) := List.forall₂_map_right_iff.mpr emits
  refine ⟨segments.map (·.map Item.signature), ?_, emits, length_of_emits emits, ?_, ?_⟩
  · rw [(ofCalls_plain calls).reads, items]
  · have names : Signature.name ∘ Item.signature = Item.name := funext Item.name_signature
    rw [← List.map_flatten, List.map_map, names]
    exact adds.distinct
  · refine backward_of_emits emits fun item member => ?_
    rw [← items] at member
    obtain ⟨item, written, rfl⟩ := List.mem_map.mp member
    exact (ofCalls_plain calls item written).word

/-- A name with its number can be the name of a later item already. -/
example : (Draft.ofCalls [(.leaf .number, "name"), (.leaf .string, "Name"),
    (.oneOf [.record ⟨none, none, []⟩, .leaf .uri], "name 2")]).items.map Item.signature =
      [.alias "Name" "f64", .alias "Name2" "String", .struct "Name22V0" [],
        .enum "Name22" ["Name22V0", "String"]] := by decide

end DataModel

end SchemaTypes
