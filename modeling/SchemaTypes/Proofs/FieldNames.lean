import SchemaTypes.Proofs.ItemNames
import SchemaTypes.Proofs.OrderedSets
import SchemaTypes.Proofs.StructReading

/-! What the fields of structs are called. Identifiers are words in small letters that are kept apart
from each other, and whatever a field is called in the source, its struct keeps the name that it has on
the wire. The words that are kept for later, and the underscore alone, are no identifiers, but a name
that spells one of them is written as it is. -/
namespace SchemaTypes

namespace DataModel

/-- Small letters, digits and underscores. -/
def isFieldChar (c : Char) : Bool := isLower c || isDigit c || c == '_'

/-- Field characters, the first of which is no digit. -/
structure FieldWord (ident : String) : Prop where
  chars : ∀ c ∈ ident.toList, isFieldChar c = true
  start : ∃ first rest, ident.toList = first :: rest ∧ isDigit first = false

/-- What a field can be called. -/
structure FieldIdentifier (ident : String) : Prop where
  word : FieldWord ident
  named : ident ≠ "_"
  unreserved : ident ∉ reservedWords

/-- The words that no field can be called although names are written as such. -/
def exposedIdents : List String :=
  ["_", "abstract", "become", "do", "final", "macro", "override", "priv", "try", "typeof", "unsized",
    "virtual"]

/-- What a name is spelled as before keywords are told apart. -/
def spelling (raw : String) : String :=
  let snake := snakeFrom [] false raw.toList
  String.ofList (if snake.isEmpty || startsWithDigit snake then '_' :: snake else snake)

theorem fieldIdent_eq (raw : String) : fieldIdent raw =
    if keywords.contains (spelling raw) then spelling raw ++ "_" else spelling raw := rfl

/-! ## Words -/

theorem isFieldChar_toLower {c : Char} : isAlphanumeric c = true → isFieldChar (toLower c) = true :=
  forall_alphanumeric (fun c => isFieldChar (toLower c) = true) (by decide) c

theorem isFieldChar_of_digit {c : Char} (digit : isDigit c = true) : isFieldChar c = true := by
  simp [isFieldChar, digit]

namespace FieldWord

variable {ident : String}

theorem append (word : FieldWord ident) {s : String}
    (chars : ∀ c ∈ s.toList, isFieldChar c = true) : FieldWord (ident ++ s) where
  chars := by
    rw [String.toList_append]
    exact List.forall_mem_append.mpr ⟨word.chars, chars⟩
  start := by
    obtain ⟨first, rest, text, letter⟩ := word.start
    exact ⟨first, rest ++ s.toList, by rw [String.toList_append, text, List.cons_append], letter⟩

theorem underscore : ∀ c ∈ "_".toList, isFieldChar c = true := List.all_eq_true.mp (by decide)

/-- What starts with a digit, or is empty, gets an underscore in front. -/
theorem ofList {chars : List Char} (each : ∀ c ∈ chars, isFieldChar c = true) :
    FieldWord (String.ofList
      (if chars.isEmpty || startsWithDigit chars then '_' :: chars else chars)) := by
  cases chars with
  | nil => exact ⟨by simpa using (by decide : isFieldChar '_' = true), '_', [], by simp, by decide⟩
  | cons first rest =>
    cases digit : isDigit first with
    | true =>
      refine ⟨?_, '_', first :: rest, by simp [startsWithDigit, digit], by decide⟩
      simp only [List.isEmpty_cons, startsWithDigit, digit, Bool.false_or, if_true,
        String.toList_ofList]
      exact List.forall_mem_cons.mpr ⟨by decide, each⟩
    | false => exact ⟨by simpa [startsWithDigit, digit] using each, first, rest,
        by simp [startsWithDigit, digit], digit⟩

theorem spelling (raw : String) : FieldWord (spelling raw) :=
  ofList (forall_snakeFrom (by decide) (fun _ => isFieldChar_toLower) [] false raw.toList (by simp))

theorem fieldIdent (raw : String) : FieldWord (fieldIdent raw) := by
  rw [fieldIdent_eq]
  split
  · exact (spelling raw).append underscore
  · exact spelling raw

theorem numbered (word : FieldWord ident) (n : Nat) : FieldWord (numbered ident "_" n) :=
  (word.append underscore).append fun c member => isFieldChar_of_digit (isDigit_toString c member)

end FieldWord

/-! ## Identifiers -/

/-- No reserved word, nor the underscore, has a digit. -/
theorem unnumbered_reserved : ∀ word ∈ "_" :: reservedWords, Unnumbered word := by
  have letters : ("_" :: reservedWords).all (fun word => word.toList.all fun c => !isDigit c) =
      true := by rfl
  intro word member c inside
  simpa using List.all_eq_true.mp (List.all_eq_true.mp letters word member) c inside

theorem FieldIdentifier.numbered {ident : String} (word : FieldWord ident) (n : Nat) :
    FieldIdentifier (numbered ident "_" n) := by
  have other : DataModel.numbered ident "_" n ∉ "_" :: reservedWords :=
    fun member => not_unnumbered (unnumbered_reserved _ member)
  obtain ⟨named, unreserved⟩ := not_or.mp (mt List.mem_cons.mpr other)
  exact ⟨word.numbered n, named, unreserved⟩

theorem not_identifier_of_exposed {ident : String} (exposed : ident ∈ exposedIdents) :
    ¬ FieldIdentifier ident := by
  intro identifier
  rcases List.mem_cons.mp exposed with bare | reserved
  · exact identifier.named bare
  · exact identifier.unreserved (List.mem_append_right _ (List.mem_cons_of_mem _ reserved))

/-- A name is spelled as an identifier, or as a word that is missing among the keywords. -/
theorem fieldIdent_cases (raw : String) :
    FieldIdentifier (fieldIdent raw) ∨ fieldIdent raw ∈ exposedIdents := by
  have word := FieldWord.fieldIdent raw
  by_cases exposed : fieldIdent raw ∈ exposedIdents
  · exact .inr exposed
  refine .inl ⟨word, fun bare => exposed (bare ▸ by decide), fun reserved => ?_⟩
  rcases List.mem_append.mp reserved with keyword | later
  · -- A keyword would have been written with an underscore, in which no keyword ends.
    rw [fieldIdent_eq] at keyword
    split at keyword
    · have ends : keywords.all (fun word => word.toList.getLast? != some '_') = true := by rfl
      simpa using List.all_eq_true.mp ends _ keyword
    · next unlisted => exact unlisted (List.contains_iff_mem.mpr keyword)
  · rcases List.mem_cons.mp later with self | later
    · obtain capital := word.chars 'S' (self ▸ by decide)
      exact absurd capital (by decide)
    · exact exposed (List.mem_cons_of_mem _ later)

theorem subset_snakeFrom (written : List Char) (afterSmall : Bool) (text : List Char) :
    written ⊆ snakeFrom written afterSmall text := by
  induction text generalizing written afterSmall with
  | nil => simp [snakeFrom]
  | cons first rest ih =>
    unfold snakeFrom
    split
    · refine List.Subset.trans ?_ (ih _ _)
      split
      · exact List.subset_cons_of_subset _ (List.subset_cons_self _ _)
      · exact List.subset_cons_self _ _
    · split
      · exact List.Subset.trans (List.subset_cons_self _ _) (ih _ _)
      · refine List.Subset.trans ?_ (ih _ _)
        split
        · exact List.Subset.refl _
        · exact List.subset_cons_self _ _

/-- Every letter or digit of a name is written. -/
theorem mem_snakeFrom {text : List Char} {c : Char} (member : c ∈ text)
    (alphanumeric : isAlphanumeric c = true) (written : List Char) (afterSmall : Bool) :
    toLower c ∈ snakeFrom written afterSmall text := by
  induction text generalizing written afterSmall with
  | nil => cases member
  | cons first rest ih =>
    unfold snakeFrom
    rcases List.mem_cons.mp member with rfl | member
    · split
      · exact subset_snakeFrom _ _ _ List.mem_cons_self
      · next plain =>
        rw [toLower, if_neg plain]
        exact subset_snakeFrom _ _ _ List.mem_cons_self
    · split
      · exact ih member _ _
      · split
        · exact ih member _ _
        · exact ih member _ _

theorem snakeFrom_other {c : Char} (other : isAlphanumeric c = false) (written rest : List Char)
    (afterSmall : Bool) : snakeFrom written afterSmall (c :: rest) =
      snakeFrom (if written.head? = some '_' then written else '_' :: written) false rest := by
  have small : isUpper c = false := by
    cases upper : isUpper c with
    | false => rfl
    | true => exact (isAlphanumeric_of_upper upper).symm.trans other
  rw [snakeFrom, small, other]
  rfl

/-- A run of other characters is one underscore. -/
theorem snakeFrom_others {text : List Char} (others : ∀ c ∈ text, isAlphanumeric c = false) :
    snakeFrom ['_'] false text = ['_'] := by
  induction text with
  | nil => rfl
  | cons first rest ih =>
    obtain ⟨other, others⟩ := List.forall_mem_cons.mp others
    rw [snakeFrom_other other]
    exact ih others

/-- Exactly the names without letters and digits are spelled as the underscore alone. -/
theorem fieldIdent_eq_underscore_iff (raw : String) :
    fieldIdent raw = "_" ↔ ∀ c ∈ raw.toList, isAlphanumeric c = false := by
  constructor
  · intro bare c member
    by_contra letter
    have alphanumeric : isAlphanumeric c = true := (Bool.not_eq_false _).mp letter
    have written : toLower c ∈ (spelling raw).toList := by
      rw [spelling, String.toList_ofList]
      exact mem_prefixed (mem_snakeFrom member alphanumeric [] false)
    have kept : toLower c ∈ (fieldIdent raw).toList := by
      rw [fieldIdent_eq]
      split
      · rw [String.toList_append]
        exact List.mem_append_left _ written
      · exact written
    rw [bare] at kept
    have lower := isAlphanumeric_toLower alphanumeric
    rw [List.mem_singleton.mp kept] at lower
    exact absurd lower (by decide)
  · intro others
    have bare : spelling raw = "_" := by
      unfold spelling
      cases text : raw.toList with
      | nil => rfl
      | cons first rest =>
        rw [text] at others
        obtain ⟨other, others⟩ := List.forall_mem_cons.mp others
        have snake : snakeFrom [] false (first :: rest) = ['_'] :=
          (snakeFrom_other other _ _ _).trans (snakeFrom_others others)
        rw [snake]
        rfl
    rw [fieldIdent_eq, bare]
    rfl

/-! ## Identifiers of one struct -/

/-- The identifiers of fields with some names, kept apart from those that are taken and from each
other. -/
def freshIdents (taken : List String) : List String → List String
  | [] => []
  | name :: rest =>
    let ident := nextFree taken (fieldIdent name) "_"
    ident :: freshIdents (ident :: taken) rest

variable {taken names : List String}

theorem freshIdents_not_mem : ∀ ident ∈ freshIdents taken names, ident ∉ taken := by
  induction names generalizing taken with
  | nil => exact List.forall_mem_nil _
  | cons name rest ih =>
    refine List.forall_mem_cons.mpr ⟨nextFree_not_mem _ _ _, fun ident member known => ?_⟩
    exact ih ident member (List.mem_cons_of_mem _ known)

theorem freshIdents_nodup : (freshIdents taken names).Nodup := by
  induction names generalizing taken with
  | nil => exact List.nodup_nil
  | cons name rest ih =>
    refine List.nodup_cons.mpr ⟨fun member => ?_, ih⟩
    exact freshIdents_not_mem _ member List.mem_cons_self

example : freshIdents [] ["a-b", "a_b", "a b"] = ["a_b", "a_b_2", "a_b_3"] := by rfl

/-- Each identifier is what its name is spelled as, or it has a number and can be used. -/
theorem freshIdents_cases (taken names : List String) : List.Forall₂
    (fun name ident => ident = fieldIdent name ∨ FieldIdentifier ident)
    names (freshIdents taken names) := by
  induction names generalizing taken with
  | nil => exact .nil
  | cons name rest ih =>
    refine .cons ?_ (ih _)
    rcases nextFree_cases taken (fieldIdent name) "_" with ⟨-, same⟩ | ⟨-, n, same⟩
    · exact .inl same
    · exact .inr (same ▸ .numbered (.fieldIdent name) n)

/-- What a name is spelled as is always taken in the end. -/
theorem fieldIdent_mem {name : String} (member : name ∈ names) (taken : List String) :
    fieldIdent name ∈ taken ∨ fieldIdent name ∈ freshIdents taken names := by
  induction names generalizing taken with
  | nil => cases member
  | cons first rest ih =>
    rcases List.mem_cons.mp member with rfl | member
    · rcases nextFree_cases taken (fieldIdent name) "_" with ⟨-, same⟩ | ⟨known, -⟩
      · exact .inr (List.mem_cons.mpr (.inl same.symm))
      · exact .inl known
    · rcases ih member (nextFree taken (fieldIdent first) "_" :: taken) with known | later
      · rcases List.mem_cons.mp known with same | known
        · exact .inr (List.mem_cons.mpr (.inl same))
        · exact .inl known
      · exact .inr (List.mem_cons_of_mem _ later)

end DataModel

open DataModel

/-! ## The struct of a record -/

/-- What a field is declared as: under its own name on the wire, with its own type. -/
structure Field.DeclaredAs (field : Field) (declaration : Declaration) : Prop where
  wireName : declaration.wireName = field.name
  type : field.ty.WrittenAs declaration.type
  omissible : declaration.omissible = field.ty.isOptional

theorem Field.item_declared {field : Field} {type : TypeExpr} (ident : String)
    (written : field.ty.WrittenAs type.source) : field.DeclaredAs (field.item ident type).declaration where
  wireName := field.item_wireName ident type
  type := written
  omissible := rfl

theorem Field.typeExpr_written (field : Field) (draft : Draft) :
    field.ty.WrittenAs (field.typeExpr draft).1.source := by
  obtain ⟨name, ty, required, default, constraints, title, description⟩ := field
  exact Ty.typeExpr_written ty name draft

theorem Record.fieldItems_idents (fields : List Field) (taken : List String) (draft : Draft) :
    (Record.fieldItems taken fields draft).1.map FieldItem.ident =
      freshIdents taken (fields.map Field.name) := by
  induction fields generalizing taken draft with
  | nil => rfl
  | cons field rest ih => exact congrArg (_ :: ·) (ih _ _)

theorem Record.fieldItems_declared (fields : List Field) (taken : List String) (draft : Draft) :
    List.Forall₂ Field.DeclaredAs fields
      ((Record.fieldItems taken fields draft).1.map FieldItem.declaration) := by
  induction fields generalizing taken draft with
  | nil => exact .nil
  | cons field rest ih => exact .cons (field.item_declared _ (field.typeExpr_written draft)) (ih _ _)

/-- Items that a reader of the source takes apart: words, and types that end no line. -/
theorem Record.fieldItems_legible (fields : List Field) (taken : List String) (draft : Draft) :
    ∀ item ∈ (Record.fieldItems taken fields draft).1,
      Word item.ident ∧ '\n' ∉ item.type.source.toList := by
  induction fields generalizing taken draft with
  | nil => exact List.forall_mem_nil _
  | cons field rest ih =>
    have word : Word (nextFree taken (fieldIdent field.name) "_") :=
      (Word.fieldIdent field.name).nextFree Word.underscore taken
    exact List.forall_mem_cons.mpr ⟨⟨word, (field.typeExpr_written draft).typeText.flat⟩, ih _ _⟩

/-- The fields of the struct that is written for a record, by itself or as a part of a type: the struct
stands behind all other items, and its text reads as these fields. -/
def Record.StructReads (record : Record) (hint : String) (draft : Draft)
    (declarations : List Declaration) : Prop :=
  let written := (Ty.record record).typeExpr hint draft
  ∃ item, written.1 = .named item.name ∧ written.2.items.getLast? = some item ∧
    (Draft.emit (.record record) hint draft).2 = written.2 ∧
    readStruct item.source = some (item.name, declarations)

theorem Record.struct_reads (record : Record) (hint : String) (draft : Draft) :
    ∃ declarations, record.StructReads hint draft declarations ∧
      List.Forall₂ Field.DeclaredAs record.fields declarations ∧
      declarations.map Declaration.ident = freshIdents [] record.fieldNames := by
  obtain ⟨title, description, fields⟩ := record
  let claimed := Draft.claim hint draft
  let items := (Record.fieldItems [] fields claimed.2).1
  refine ⟨items.map FieldItem.declaration,
    ⟨.record claimed.1 title description items, rfl, List.getLast?_concat, rfl, ?_⟩,
    Record.fieldItems_declared fields [] claimed.2, ?_⟩
  · exact readStruct_source (Draft.claim_word hint draft)
      (Record.fieldItems_legible fields [] claimed.2)
  · rw [List.map_map]
    exact Record.fieldItems_idents fields [] claimed.2

theorem Record.fieldNames_of_declared {record : Record} {declarations : List Declaration}
    (declared : List.Forall₂ Field.DeclaredAs record.fields declarations) :
    declarations.map Declaration.wireName = record.fieldNames := by
  unfold Record.fieldNames
  generalize record.fields = fields at declared
  induction declared with
  | nil => rfl
  | cons first rest ih => rw [List.map_cons, List.map_cons, first.wireName, ih]

/-- Every identifier in the struct of a record is one that a field can be called, but for the underscore
alone, which is written for names without letters and digits, and the words that are missing among the
keywords: where the name of a field spells one of these, some field is called so. -/
theorem Record.struct_identifiers (record : Record) (hint : String) (draft : Draft) :
    ∃ declarations, record.StructReads hint draft declarations ∧
      (∀ declaration ∈ declarations, FieldIdentifier declaration.ident ∨
        declaration.ident ∈ exposedIdents ∧
          declaration.ident = fieldIdent declaration.wireName) ∧
      (∀ field ∈ record.fields, fieldIdent field.name ∈ exposedIdents →
        ∃ declaration ∈ declarations, declaration.ident = fieldIdent field.name ∧
          ¬ FieldIdentifier declaration.ident) ∧
      ∀ name, fieldIdent name = "_" ↔ ∀ c ∈ name.toList, isAlphanumeric c = false := by
  obtain ⟨declarations, reads, declared, idents⟩ := record.struct_reads hint draft
  have names := Record.fieldNames_of_declared declared
  refine ⟨declarations, reads, ?_, ?_, fieldIdent_eq_underscore_iff⟩
  · have cases := freshIdents_cases [] record.fieldNames
    rw [← idents, ← names, List.forall₂_map_left_iff, List.forall₂_map_right_iff,
      List.forall₂_same] at cases
    intro declaration member
    rcases cases declaration member with same | identifier
    · rcases fieldIdent_cases declaration.wireName with identifier | exposed
      · exact .inl (same ▸ identifier)
      · exact .inr ⟨same ▸ exposed, same⟩
    · exact .inl identifier
  · intro field member exposed
    have listed : field.name ∈ record.fieldNames := List.mem_map_of_mem member
    have taken := (fieldIdent_mem listed []).resolve_left List.not_mem_nil
    rw [← idents] at taken
    obtain ⟨declaration, inside, same⟩ := List.mem_map.mp taken
    exact ⟨declaration, inside, same, not_identifier_of_exposed (same ▸ exposed)⟩

/-- Texts under some names. -/
def Record.texts (names : List String) : Record :=
  ⟨none, none, names.map fun name => ⟨name, .leaf .string, true, .required, .unlimited, none, none⟩⟩

theorem Record.struct_exposed :
    (Record.texts ["abstract", ""]).StructReads "Root" .empty
        [⟨"abstract", "String", "abstract", false⟩, ⟨"_", "String", "", false⟩] ∧
      ¬ ∀ (record : Record) (hint : String) (draft : Draft) (declarations : List Declaration),
        record.StructReads hint draft declarations →
          ∀ declaration ∈ declarations, FieldIdentifier declaration.ident := by
  have reads : (Record.texts ["abstract", ""]).StructReads "Root" .empty
      [⟨"abstract", "String", "abstract", false⟩, ⟨"_", "String", "", false⟩] :=
    ⟨_, rfl, rfl, rfl, readStruct_source (Draft.claim_word "Root" .empty)
      (Record.fieldItems_legible (Record.texts ["abstract", ""]).fields [] (Draft.claim "Root" .empty).2)⟩
  refine ⟨reads, fun each => ?_⟩
  have reserved := each _ _ _ _ reads _ List.mem_cons_self
  exact reserved.unreserved (by decide)

/-- The struct of a record keeps what stands on the wire. It has a field for each field of the record, in
their order, and no two of them share an identifier; the name on the wire, which is the one in the
attribute or else the identifier, is the name of the record's field, and exactly the fields that may be
absent are options and may be left out. -/
theorem Record.struct_keeps_names (record : Record) (hint : String) (draft : Draft) :
    ∃ declarations, record.StructReads hint draft declarations ∧
      declarations.map Declaration.wireName = record.fieldNames ∧
      (declarations.map Declaration.ident).Nodup ∧
      List.Forall₂ (fun field declaration =>
        declaration.omissible = field.ty.isOptional ∧
          ((∃ inner, declaration.type = "Option<" ++ inner ++ ">") ↔ field.ty.isOptional = true))
        record.fields declarations := by
  obtain ⟨declarations, reads, declared, idents⟩ := record.struct_reads hint draft
  refine ⟨declarations, reads, Record.fieldNames_of_declared declared, ?_, ?_⟩
  · rw [idents]
    exact freshIdents_nodup
  · exact declared.imp fun field declaration as => ⟨as.omissible, as.type.option_iff⟩

end SchemaTypes
