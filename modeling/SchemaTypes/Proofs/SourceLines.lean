import SchemaTypes.Proofs.Drafting

/-! The lines of a generated data model. Titles, descriptions, names and literals reach the source text
through comments, quoted literals and names made of word characters, and none of them ends the line
that it stands on: whatever the types are, each line of the source has one of a few fixed forms. -/
namespace SchemaTypes

open DataModel

namespace DataModel

/-! ## What stands in a line -/

def isWordChar (c : Char) : Bool := isAlphanumeric c || c == '_'

/-- ASCII letters, digits and underscores, at least one of them. -/
structure Word (s : String) : Prop where
  nonempty : s.toList ≠ []
  chars : ∀ c ∈ s.toList, isWordChar c = true

/-- Types as they are written: words, and generic types of them. -/
inductive TypeText : String → Prop where
  | word {s : String} : Word s → TypeText s
  | list {s : String} : TypeText s → TypeText ("Vec<" ++ s ++ ">")
  | orderedSet {s : String} : TypeText s → TypeText ("BTreeSet<" ++ s ++ ">")
  | optional {s : String} : TypeText s → TypeText ("Option<" ++ s ++ ">")

def isHexDigit (c : Char) : Bool := isDigit c || ('a' ≤ c && c ≤ 'f')

/-- The characters between the quotes of a literal: a quote or a backslash stands only in an escape,
and a line feed or a carriage return does not stand there at all. -/
inductive LiteralBody : List Char → Prop where
  | nil : LiteralBody []
  | plain {c : Char} {rest : List Char} : c ∉ ['"', '\\', '\n', '\r'] → LiteralBody rest →
      LiteralBody (c :: rest)
  | escape {c : Char} {rest : List Char} : c ∈ ['"', '\\', 'n', 'r', 't', '0'] →
      LiteralBody rest → LiteralBody ('\\' :: c :: rest)
  | codePoint {digits rest : List Char} : digits ≠ [] → digits.length ≤ 6 →
      (∀ c ∈ digits, isHexDigit c = true) → LiteralBody rest →
      LiteralBody ('\\' :: 'u' :: '\x7b' :: digits ++ '\x7d' :: rest)

/-- A complete string literal: the quote at its end is the first that no escape takes. -/
inductive Literal : String → Prop where
  | quoted {body : List Char} : LiteralBody body → Literal (String.ofList ('"' :: body ++ ['"']))

/-- The lines that a data model is written with, without the line feeds that end them. -/
inductive SourceLine : String → Prop where
  | empty : SourceLine ""
  | comment {indent text : String} : indent = "" ∨ indent = "    " → '\n' ∉ text.toList →
      SourceLine (indent ++ "///" ++ text)
  | derive : SourceLine "#[derive(Debug, Clone, PartialEq, Serialize, Deserialize)]"
  | untagged : SourceLine "#[serde(untagged)]"
  | rename {literal : String} : Literal literal →
      SourceLine ("    #[serde(rename = " ++ literal ++ ")]")
  | «optional» : SourceLine "    #[serde(default, skip_serializing_if = \"Option::is_none\")]"
  | «struct» {name : String} : Word name → SourceLine ("pub struct " ++ name ++ " \x7b")
  | enum {name : String} : Word name → SourceLine ("pub enum " ++ name ++ " \x7b")
  | «alias» {name type : String} : Word name → TypeText type →
      SourceLine ("pub type " ++ name ++ " = " ++ type ++ ";")
  | field {ident type : String} : Word ident → TypeText type →
      SourceLine ("    pub " ++ ident ++ ": " ++ type ++ ",")
  | variant {type : String} (index : Nat) : TypeText type →
      SourceLine ("    V" ++ toString index ++ "(" ++ type ++ "),")
  | close : SourceLine "\x7d"

/-- Text that consists of source lines, each ended by a line feed. -/
def Lined (s : String) : Prop :=
  ∃ lines : List String, s = String.join (lines.map line) ∧ ∀ l ∈ lines, SourceLine l

/-! ## Names -/

theorem isWordChar_of_alphanumeric {c : Char} (alphanumeric : isAlphanumeric c = true) :
    isWordChar c = true := by
  simp [isWordChar, alphanumeric]

theorem isDigit_toString {n : Nat} : ∀ c ∈ (toString n).toList, isDigit c = true := by
  intro c member
  have digit : c.isDigit = true := by
    refine Nat.isDigit_of_mem_toDigits (b := 10) (n := n) (by decide) (by decide) ?_
    simpa using member
  have bounds : '0' ≤ c ∧ c ≤ '9' := by
    simp only [Char.isDigit, Bool.and_eq_true, decide_eq_true_eq] at digit
    exact digit
  simp [isDigit, bounds]

theorem isAlphanumeric_of_digit {c : Char} (digit : isDigit c = true) :
    isAlphanumeric c = true := by
  simp [isAlphanumeric, digit]

theorem isWordChar_toString {n : Nat} : ∀ c ∈ (toString n).toList, isWordChar c = true :=
  fun c member => isWordChar_of_alphanumeric (isAlphanumeric_of_digit (isDigit_toString c member))

theorem toNat_lt_of_alphanumeric {c : Char} (alphanumeric : isAlphanumeric c = true) :
    c.toNat < 123 := by
  simp only [isAlphanumeric, isLower, isUpper, isDigit, Bool.or_eq_true, Bool.and_eq_true,
    decide_eq_true_eq, Char.le_def, UInt32.le_iff_toNat_le] at alphanumeric
  have bounds : ('z'.val.toNat = 122 ∧ 'Z'.val.toNat = 90) ∧ '9'.val.toNat = 57 := by decide
  show c.val.toNat < 123
  omega

/-- There are few enough letters and digits to try them all. -/
theorem forall_alphanumeric (holds : Char → Prop)
    (each : ∀ n < 123, isAlphanumeric (Char.ofNat n) = true → holds (Char.ofNat n)) :
    ∀ c, isAlphanumeric c = true → holds c := by
  intro c alphanumeric
  have small := each c.toNat (toNat_lt_of_alphanumeric alphanumeric)
  rw [Char.ofNat_toNat] at small
  exact small alphanumeric

theorem isAlphanumeric_toUpper {c : Char} : isAlphanumeric c = true →
    isAlphanumeric (toUpper c) = true :=
  forall_alphanumeric (fun c => isAlphanumeric (toUpper c) = true) (by decide) c

theorem isAlphanumeric_toLower {c : Char} : isAlphanumeric c = true →
    isAlphanumeric (toLower c) = true :=
  forall_alphanumeric (fun c => isAlphanumeric (toLower c) = true) (by decide) c

theorem isAlphanumeric_of_upper {c : Char} (upper : isUpper c = true) :
    isAlphanumeric c = true := by
  simp [isAlphanumeric, upper]

theorem isAlphanumeric_joinWords (wordStart : Bool) (text : List Char) :
    ∀ c ∈ joinWords wordStart text, isAlphanumeric c = true := by
  induction text generalizing wordStart with
  | nil => simp [joinWords]
  | cons first rest ih =>
    unfold joinWords
    split
    · next alphanumeric =>
      intro c member
      rcases List.mem_cons.mp member with rfl | member
      · split
        · exact isAlphanumeric_toUpper alphanumeric
        · exact alphanumeric
      · exact ih false c member
    · exact ih true

/-- What holds of small letters, digits and underscores holds of all that is written. -/
theorem forall_snakeFrom {holds : Char → Prop} (underscore : holds '_')
    (small : ∀ c, isAlphanumeric c = true → holds (toLower c)) (written : List Char)
    (afterSmall : Bool) (text : List Char) (before : ∀ c ∈ written, holds c) :
    ∀ c ∈ snakeFrom written afterSmall text, holds c := by
  induction text generalizing written afterSmall with
  | nil => simpa [snakeFrom] using before
  | cons first rest ih =>
    have underscored : ∀ c ∈ '_' :: written, holds c :=
      List.forall_mem_cons.mpr ⟨underscore, before⟩
    unfold snakeFrom
    split
    · next upper =>
      refine ih _ _ (List.forall_mem_cons.mpr ⟨small first (isAlphanumeric_of_upper upper), ?_⟩)
      split
      · exact underscored
      · exact before
    · next plain =>
      split
      · next alphanumeric =>
        have kept := small first alphanumeric
        rw [toLower, if_neg plain] at kept
        exact ih _ _ (List.forall_mem_cons.mpr ⟨kept, before⟩)
      · refine ih _ _ ?_
        split
        · exact before
        · exact underscored

theorem isWordChar_snakeFrom (text : List Char) :
    ∀ c ∈ snakeFrom [] false text, isWordChar c = true :=
  forall_snakeFrom (by decide)
    (fun _ alphanumeric => isWordChar_of_alphanumeric (isAlphanumeric_toLower alphanumeric))
    [] false text (by simp)

namespace Word

theorem append {s t : String} (first : Word s) (rest : ∀ c ∈ t.toList, isWordChar c = true) :
    Word (s ++ t) where
  nonempty := by
    intro empty
    exact first.nonempty (List.append_eq_nil_iff.mp (String.toList_append ▸ empty)).1
  chars c member := by
    rcases List.mem_append.mp (String.toList_append ▸ member) with member | member
    · exact first.chars c member
    · exact rest c member

theorem ofList {chars : List Char} (word : ∀ c ∈ chars, isWordChar c = true) {first : Char}
    (start : isWordChar first = true) {prefixed : Bool} (filled : chars = [] → prefixed = true) :
    Word (String.ofList (if prefixed then first :: chars else chars)) where
  nonempty := by
    rw [String.toList_ofList]
    split
    · exact List.cons_ne_nil _ _
    · next unprefixed => exact fun empty => unprefixed (filled empty)
  chars := by
    rw [String.toList_ofList]
    split
    · exact List.forall_mem_cons.mpr ⟨start, word⟩
    · exact word

theorem underscore : ∀ c ∈ "_".toList, isWordChar c = true :=
  List.all_eq_true.mp (by decide)

theorem itemName (raw : String) : Word (itemName raw) := by
  have joined : ∀ c ∈ joinWords true raw.toList, isWordChar c = true := fun c member =>
    isWordChar_of_alphanumeric (isAlphanumeric_joinWords true raw.toList c member)
  refine ofList joined (by decide) fun empty => ?_
  simp [empty]

theorem fieldIdent (raw : String) : Word (fieldIdent raw) := by
  have snake : ∀ c ∈ snakeFrom [] false raw.toList, isWordChar c = true :=
    isWordChar_snakeFrom raw.toList
  have unlike_keyword (ident : String) (word : Word ident) :
      Word (if keywords.contains ident then ident ++ "_" else ident) := by
    split
    · exact word.append underscore
    · exact word
  refine unlike_keyword _ (ofList snake (by decide) fun empty => ?_)
  simp [empty]

/-- A variant of a word that is taken is a word when its separator is. -/
theorem nextFree {base separator : String} (word : Word base)
    (between : ∀ c ∈ separator.toList, isWordChar c = true) (taken : List String) :
    Word (nextFree taken base separator) := by
  have numbered_word (n : Nat) : Word (numbered base separator n) :=
    (word.append between).append isWordChar_toString
  have first_word (bound n : Nat) : Word (firstFree taken base separator bound n) := by
    induction bound generalizing n with
    | zero => exact numbered_word n
    | succ bound ih =>
      unfold firstFree
      split
      · exact ih (n + 1)
      · exact numbered_word n
  unfold DataModel.nextFree
  split
  · exact first_word _ _
  · exact word

end Word

/-! ## Literals -/

theorem LiteralBody.append {first second : List Char} (before : LiteralBody first)
    (after : LiteralBody second) : LiteralBody (first ++ second) := by
  induction before with
  | nil => exact after
  | plain unescaped rest ih => exact .plain unescaped ih
  | escape named rest ih => exact .escape named ih
  | codePoint nonempty short hex rest ih =>
    rw [List.append_assoc, List.cons_append]
    exact .codePoint nonempty short hex ih

theorem isHexDigit_toDigits (n : Nat) : ∀ c ∈ Nat.toDigits 16 n, isHexDigit c = true := by
  have digit : ∀ d < 16, isHexDigit d.digitChar = true := by decide
  induction n using Nat.strongRecOn with
  | ind n ih =>
    rcases Nat.lt_or_ge n 16 with small | large
    · rw [Nat.toDigits_of_lt_base small]
      exact List.forall_mem_singleton.mpr (digit n small)
    · rw [Nat.toDigits_of_base_le (by decide) large]
      intro c member
      rcases List.mem_append.mp member with member | member
      · exact ih (n / 16) (by omega) c member
      · rw [List.mem_singleton.mp member]
        exact digit _ (Nat.mod_lt n (by decide))

/-- A code point has at most six hexadecimal digits. -/
theorem length_codePoint (c : Char) : (Nat.toDigits 16 c.toNat).length ≤ 6 := by
  refine (Nat.length_toDigits_le_iff (by decide) (by decide)).mpr ?_
  rcases c.valid with low | ⟨-, high⟩
  · exact Nat.lt_trans low (by decide)
  · exact Nat.lt_trans high (by decide)

theorem LiteralBody.codePointEscape (c : Char) : LiteralBody (Text.codePointEscape c) :=
  .codePoint Nat.toDigits_ne_nil (length_codePoint c) (isHexDigit_toDigits _) .nil

theorem LiteralBody.escapeChar (c : Char) : LiteralBody (Text.escapeChar c) := by
  unfold Text.escapeChar
  split
  · exact .escape (by decide) .nil
  · exact .escape (by decide) .nil
  · exact .escape (by decide) .nil
  · exact .escape (by decide) .nil
  · exact .escape (by decide) .nil
  · split
    · exact .escape (by decide) .nil
    · split
      · exact .codePointEscape c
      · refine .plain ?_ .nil
        simp only [List.mem_cons, List.not_mem_nil, or_false, not_or]
        exact ⟨‹_›, ‹_›, ‹_›, ‹_›⟩

theorem Literal.quote (s : String) : Literal (Text.quote s) := by
  refine .quoted ?_
  induction s.toList with
  | nil => exact .nil
  | cons c rest ih => exact (LiteralBody.escapeChar c).append ih

/-! ## Lines end where they say -/

theorem Word.flat {s : String} (word : Word s) : '\n' ∉ s.toList := by
  intro member
  have unlike : isWordChar '\n' = false := by decide
  exact absurd (word.chars _ member) (by simp [unlike])

theorem TypeText.flat {s : String} (type : TypeText s) : '\n' ∉ s.toList := by
  induction type with
  | word word => exact word.flat
  | list item ih => simpa using ih
  | orderedSet item ih => simpa using ih
  | «optional» inner ih => simpa using ih

theorem LiteralBody.flat {body : List Char} (literal : LiteralBody body) : '\n' ∉ body := by
  induction literal with
  | nil => simp
  | plain unescaped rest ih =>
    intro member
    rcases List.mem_cons.mp member with rfl | member
    · exact unescaped (by decide)
    · exact ih member
  | escape named rest ih =>
    intro member
    rcases List.mem_cons.mp member with same | member
    · exact absurd same (by decide)
    · rcases List.mem_cons.mp member with rfl | member
      · exact absurd named (by decide)
      · exact ih member
  | codePoint nonempty short hex rest ih =>
    have unlike : isHexDigit '\n' = false := by decide
    intro member
    simp only [List.cons_append, List.mem_cons, List.mem_append, Char.reduceEq, false_or] at member
    rcases member with member | member
    · exact absurd (hex _ member) (by simp [unlike])
    · exact ih member

theorem Literal.flat {s : String} (literal : Literal s) : '\n' ∉ s.toList := by
  obtain ⟨body⟩ := literal
  simpa using body.flat

theorem SourceLine.flat {s : String} (form : SourceLine s) : '\n' ∉ s.toList := by
  cases form with
  | empty => decide
  | comment indent text => rcases indent with rfl | rfl <;> simpa using text
  | derive => decide
  | untagged => decide
  | rename literal => simpa using literal.flat
  | «optional» => decide
  | «struct» name => simpa using name.flat
  | enum name => simpa using name.flat
  | «alias» name type => simpa using ⟨name.flat, type.flat⟩
  | field ident type => simpa using ⟨ident.flat, type.flat⟩
  | variant index type =>
    have digits : '\n' ∉ Nat.toDigits 10 index := fun member =>
      absurd (isWordChar_toString '\n' (by simpa using member)) (by decide)
    simpa using ⟨digits, type.flat⟩
  | close => decide

/-! ## Items in lines -/

namespace Lined

variable {s t : String}

theorem nil : Lined "" := ⟨[], rfl, by simp⟩

theorem single (form : SourceLine s) : Lined (line s) :=
  ⟨[s], by simp, List.forall_mem_singleton.mpr form⟩

theorem append (first : Lined s) (second : Lined t) : Lined (s ++ t) := by
  obtain ⟨lines, rfl, forms⟩ := first
  obtain ⟨others, rfl, forms'⟩ := second
  refine ⟨lines ++ others, ?_, List.forall_mem_append.mpr ⟨forms, forms'⟩⟩
  rw [List.map_append, String.join_append]

theorem join {texts : List String} (each : ∀ text ∈ texts, Lined text) :
    Lined (String.join texts) := by
  induction texts with
  | nil => exact nil
  | cons text rest ih =>
    obtain ⟨first, others⟩ := List.forall_mem_cons.mp each
    rw [String.join_cons]
    exact first.append (ih others)

end Lined

theorem not_mem_linesFrom {before text : List Char} (flat : '\n' ∉ before) :
    ∀ l ∈ Text.linesFrom before text, '\n' ∉ l := by
  induction text generalizing before with
  | nil =>
    unfold Text.linesFrom
    split
    · simp
    · simpa using flat
  | cons c rest ih =>
    unfold Text.linesFrom
    split
    · refine List.forall_mem_cons.mpr ⟨fun member => flat ?_, ih (by simp)⟩
      unfold Text.dropReturn at member
      split at member
      · exact List.mem_reverse.mp (List.dropLast_subset _ member)
      · exact List.mem_reverse.mp member
    · next other => exact ih (List.not_mem_cons_of_ne_of_not_mem (Ne.symm other) flat)

theorem not_mem_lines {text l : String} (member : l ∈ Text.lines text) : '\n' ∉ l.toList := by
  obtain ⟨chars, listed, rfl⟩ := List.mem_map.mp member
  rw [String.toList_ofList]
  exact not_mem_linesFrom (by simp) chars listed

/-- Text that has no line feed of its own gives one comment line. -/
theorem commentLine_lined {indent text : String} (margin : indent = "" ∨ indent = fieldIndent)
    (flat : '\n' ∉ text.toList) : Lined (commentLine indent text) := by
  have form : SourceLine (indent ++ "///" ++ (" " ++ text)) :=
    .comment margin (by simpa using flat)
  have same : indent ++ "///" ++ (" " ++ text) = indent ++ "/// " ++ text := by
    rw [String.append_assoc, String.append_assoc]
    rfl
  exact .single (same ▸ form)

theorem comment_lined {indent : String} (margin : indent = "" ∨ indent = fieldIndent)
    (text : Option String) : Lined (comment indent text) := by
  cases text with
  | none => exact .nil
  | some text =>
    refine .join fun l member => ?_
    obtain ⟨part, listed, rfl⟩ := List.mem_map.mp member
    exact commentLine_lined margin (not_mem_lines listed)

theorem LeafNote.text_flat (note : LeafNote) : '\n' ∉ note.text.toList := by
  cases note with
  | uri => decide
  | literal value => simpa [LeafNote.text] using (Literal.quote value).flat

theorem noteLine_lined {label : String} (plain : '\n' ∉ label.toList) {text : Option String}
    (flat : ∀ t ∈ text, '\n' ∉ t.toList) : Lined (noteLine label text) := by
  cases text with
  | none => exact .nil
  | some text =>
    refine commentLine_lined (.inr rfl) ?_
    rw [String.toList_append, List.mem_append, not_or]
    exact ⟨plain, flat text rfl⟩

namespace FieldItem

theorem renameLine_lined (field : FieldItem) : Lined field.renameLine := by
  unfold renameLine
  split
  · exact .nil
  · next name _ => exact .single (.rename (.quote name))

theorem optionalLine_lined (field : FieldItem) : Lined field.optionalLine := by
  unfold optionalLine
  split
  · exact .single .optional
  · exact .nil

theorem source_lined {field : FieldItem} (ident : Word field.ident)
    (type : TypeText field.type.source) : Lined field.source := by
  have note : Lined (noteLine "" (field.note.map LeafNote.text)) := by
    refine noteLine_lined (by decide) fun text present => ?_
    obtain ⟨note, -, rfl⟩ := Option.map_eq_some_iff.mp present
    exact note.text_flat
  have limit (label : String) (plain : '\n' ∉ label.toList) (bound : Option Nat) :
      Lined (noteLine label (bound.map toString)) := by
    refine noteLine_lined plain fun text present => ?_
    obtain ⟨n, -, rfl⟩ := Option.map_eq_some_iff.mp present
    exact fun member => absurd (isWordChar_toString _ member) (by decide)
  have comments := (comment_lined (.inr rfl) field.title).append
    (comment_lined (.inr rfl) field.description)
  have minimum := limit "minLength: " (by decide) field.minLength
  have maximum := limit "maxLength: " (by decide) field.maxLength
  have notes := ((comments.append note).append minimum).append maximum
  have attributes := (notes.append field.renameLine_lined).append field.optionalLine_lined
  exact attributes.append (.single (.field ident type))

end FieldItem

theorem armsSource_lined {arms : List TypeExpr} (types : ∀ arm ∈ arms, TypeText arm.source)
    (index : Nat) : Lined (armsSource index arms) := by
  induction arms generalizing index with
  | nil => exact .nil
  | cons arm rest ih =>
    obtain ⟨type, others⟩ := List.forall_mem_cons.mp types
    exact Lined.append (.single (.variant index type)) (ih others (index + 1))

theorem commentGap_lined (title description : Option String) :
    Lined (commentGap title description) := by
  unfold commentGap
  split
  · exact .single (@SourceLine.comment "" "" (.inl rfl) (by decide))
  · exact .nil

/-- The names that an item gives, and the types that it consists of, are made of words. -/
def Item.Plain : Item → Prop
  | .record name _ _ fields =>
    Word name ∧ ∀ field ∈ fields, Word field.ident ∧ TypeText field.type.source
  | .union name arms => Word name ∧ ∀ arm ∈ arms, TypeText arm.source
  | .alias name type => Word name ∧ TypeText type.source

theorem Item.source_lined {item : Item} (plain : item.Plain) : Lined item.source := by
  cases item with
  | record name title description fields =>
    obtain ⟨word, each⟩ := plain
    have body : Lined (String.join (fields.map FieldItem.source)) := by
      refine .join fun text member => ?_
      obtain ⟨field, listed, rfl⟩ := List.mem_map.mp member
      exact FieldItem.source_lined (each field listed).1 (each field listed).2
    have comments := ((Lined.single .empty).append (comment_lined (.inl rfl) title)).append
      (commentGap_lined title description) |>.append (comment_lined (.inl rfl) description)
    have opened := (comments.append (.single .derive)).append (.single (.struct word))
    exact (opened.append body).append (.single .close)
  | union name arms =>
    obtain ⟨word, types⟩ := plain
    have opened := ((Lined.single .empty).append (.single .derive)).append (.single .untagged)
      |>.append (.single (.enum word))
    exact (opened.append (armsSource_lined types 0)).append (.single .close)
  | «alias» name type => exact Lined.append (.single .empty) (.single (.alias plain.1 plain.2))

end DataModel

/-! ## Items of types -/

namespace DataModel.Draft

/-- A draft whose items are made of words. -/
def Plain (draft : Draft) : Prop := ∀ item ∈ draft.items, item.Plain

theorem claim_word (hint : String) (draft : Draft) : Word (claim hint draft).1 :=
  (Word.itemName hint).nextFree (by simp) draft.taken

theorem Plain.write {draft : Draft} (plain : draft.Plain) {item : Item} (last : item.Plain) :
    (Draft.write item draft).2.Plain :=
  List.forall_mem_append.mpr ⟨plain, List.forall_mem_singleton.mpr last⟩

end DataModel.Draft

theorem Leaf.typeExpr_text (leaf : Leaf) : TypeText leaf.typeExpr.source := by
  have text : Word "String" := ⟨by decide, List.all_eq_true.mp (by decide)⟩
  have number : Word "f64" := ⟨by decide, List.all_eq_true.mp (by decide)⟩
  cases leaf with
  | number => exact .word number
  | string => exact .word text
  | uri => exact .word text
  | literal value => exact .word text

mutual

/-- Writing a type leaves a draft plain: each name is claimed, and so is a word. -/
theorem Ty.typeExpr_plain : ∀ (ty : Ty) (hint : String) (draft : Draft), draft.Plain →
    (ty.typeExpr hint draft).2.Plain ∧ TypeText (ty.typeExpr hint draft).1.source
  | .record ⟨title, description, fields⟩, hint, draft, plain => by
    have word := Draft.claim_word hint draft
    obtain ⟨after, each⟩ := Record.fieldItems_plain fields [] (Draft.claim hint draft).2 plain
    exact ⟨after.write ⟨word, each⟩, .word word⟩
  | .oneOf arms, hint, draft, plain => by
    have word := Draft.claim_word hint draft
    obtain ⟨after, each⟩ :=
      Ty.armExprs_plain arms (Draft.claim hint draft).1 0 (Draft.claim hint draft).2 plain
    exact ⟨after.write ⟨word, each⟩, .word word⟩
  | .list item, hint, draft, plain => by
    obtain ⟨after, type⟩ := Ty.typeExpr_plain item hint draft plain
    exact ⟨after, .list type⟩
  | .set item, hint, draft, plain => by
    obtain ⟨after, type⟩ := Ty.typeExpr_plain item hint draft plain
    refine ⟨after, ?_⟩
    show TypeText (if item.isOrderable then TypeExpr.orderedSet _ else .list _).source
    split
    · exact .orderedSet type
    · exact .list type
  | .optional inner, hint, draft, plain => by
    obtain ⟨after, type⟩ := Ty.typeExpr_plain inner hint draft plain
    exact ⟨after, .optional type⟩
  | .leaf leaf, _, draft, plain => by
    exact ⟨plain, leaf.typeExpr_text⟩

theorem Ty.armExprs_plain : ∀ (arms : List Ty) (name : String) (index : Nat) (draft : Draft),
    draft.Plain → (Ty.armExprs name index arms draft).2.Plain ∧
      ∀ expr ∈ (Ty.armExprs name index arms draft).1, TypeText expr.source
  | [], _, _, _, plain => ⟨plain, List.forall_mem_nil _⟩
  | arm :: rest, name, index, draft, plain => by
    obtain ⟨middle, type⟩ :=
      Ty.typeExpr_plain arm (name ++ "V" ++ toString index) draft plain
    obtain ⟨after, types⟩ := Ty.armExprs_plain rest name (index + 1) _ middle
    exact ⟨after, List.forall_mem_cons.mpr ⟨type, types⟩⟩

theorem Record.fieldItems_plain : ∀ (fields : List Field) (idents : List String) (draft : Draft),
    draft.Plain → (Record.fieldItems idents fields draft).2.Plain ∧
      ∀ item ∈ (Record.fieldItems idents fields draft).1,
        Word item.ident ∧ TypeText item.type.source
  | [], _, _, plain => ⟨plain, List.forall_mem_nil _⟩
  | field :: rest, idents, draft, plain => by
    have word : Word (nextFree idents (fieldIdent field.name) "_") :=
      (Word.fieldIdent field.name).nextFree Word.underscore idents
    obtain ⟨middle, type⟩ := Field.typeExpr_plain field draft plain
    obtain ⟨after, each⟩ := Record.fieldItems_plain rest
      (nextFree idents (fieldIdent field.name) "_" :: idents) _ middle
    exact ⟨after, List.forall_mem_cons.mpr ⟨⟨word, type⟩, each⟩⟩

theorem Field.typeExpr_plain : ∀ (field : Field) (draft : Draft), draft.Plain →
    (field.typeExpr draft).2.Plain ∧ TypeText (field.typeExpr draft).1.source
  | ⟨name, ty, _, _, _, _, _⟩, draft, plain => Ty.typeExpr_plain ty name draft plain

end

namespace DataModel.Draft

theorem Plain.alias {draft : Draft} (plain : draft.Plain) (ty : Ty) (root : String) :
    let named := claim root draft
    let written := ty.typeExpr named.1 named.2
    (Draft.write (.alias named.1 written.1) written.2).2.Plain := by
  obtain ⟨after, type⟩ := Ty.typeExpr_plain ty (claim root draft).1 (claim root draft).2 plain
  have last : (Item.alias (claim root draft).1
      (ty.typeExpr (claim root draft).1 (claim root draft).2).1).Plain :=
    ⟨claim_word root draft, type⟩
  exact after.write last

theorem Plain.emit {draft : Draft} (plain : draft.Plain) (ty : Ty) (root : String) :
    (Draft.emit ty root draft).2.Plain := by
  cases ty with
  | record record => exact (Ty.typeExpr_plain (.record record) root draft plain).1
  | oneOf arms => exact (Ty.typeExpr_plain (.oneOf arms) root draft plain).1
  | list item => exact plain.alias (.list item) root
  | set item => exact plain.alias (.set item) root
  | «optional» inner => exact plain.alias (.optional inner) root
  | leaf leaf => exact plain.alias (.leaf leaf) root

theorem Plain.emits {draft : Draft} (plain : draft.Plain) (calls : List (Ty × String)) :
    (calls.foldl (fun draft call => (Draft.emit call.1 call.2 draft).2) draft).Plain := by
  induction calls generalizing draft with
  | nil => exact plain
  | cons call rest ih => exact ih (plain.emit call.1 call.2)

theorem ofCalls_plain (calls : List (Ty × String)) : (ofCalls calls).Plain :=
  Plain.emits (by simp [Plain, empty]) calls

/-- Behind the header, the source of any types under any names consists of lines of the fixed forms.
Whatever text the types hold, it ends no line but the one it was to end. -/
theorem ofCalls_lines (calls : List (Ty × String)) :
    ∃ lines : List String,
      (ofCalls calls).source = header ++ String.join (lines.map line) ∧
        ∀ l ∈ lines, SourceLine l ∧ '\n' ∉ l.toList := by
  have body : Lined (String.join ((ofCalls calls).items.map Item.source)) := by
    refine .join fun text member => ?_
    obtain ⟨item, listed, rfl⟩ := List.mem_map.mp member
    exact Item.source_lined (ofCalls_plain calls item listed)
  obtain ⟨lines, same, forms⟩ := body
  exact ⟨lines, congrArg (header ++ ·) same, fun l member =>
    ⟨forms l member, (forms l member).flat⟩⟩

end DataModel.Draft

end SchemaTypes
