import SchemaTypes.Proofs.SourceLines
import SchemaTypes.Text.Pieces

/-! Reading a struct back from its source text. A reader goes through the lines of an item, takes the
attributes in front of a field for that field, and undoes the escapes of a quoted name; from the text
of a record it gets the fields that the record was written with, in their order. -/
namespace SchemaTypes

namespace Text

/-! ## Quoted text -/

/-- The character that a letter behind a backslash stands for. -/
def escaped? (c : Char) : Option Char :=
  [('"', '"'), ('\\', '\\'), ('n', '\n'), ('r', '\r'), ('t', '\t'), ('0', Char.ofNat 0)].lookup c

def hexDigit? (c : Char) : Option Nat := (List.range 16).find? fun d => d.digitChar = c

/-- Where a reader stands in a literal. -/
inductive LiteralReader where
  | plain
  /-- Behind a backslash. -/
  | escape
  /-- Behind a backslash and a `u`. -/
  | brace
  /-- In a code point: how many digits there were, and what they come to. -/
  | codePoint (digits value : Nat)

/-- The characters up to the quote that ends a literal, and what stands behind it. A code point has one
to six digits. -/
def readLiteral (reader : LiteralReader) : List Char → Option (List Char × List Char)
  | [] => none
  | c :: rest =>
    let write := fun d => (readLiteral .plain rest).map fun read => (d :: read.1, read.2)
    match reader with
    | .plain =>
      if c = '"' then some ([], rest)
      else if c = '\\' then readLiteral .escape rest
      else if c = '\r' then none
      else write c
    | .escape => if c = 'u' then readLiteral .brace rest else (escaped? c).bind write
    | .brace => if c = '\x7b' then readLiteral (.codePoint 0 0) rest else none
    | .codePoint digits value =>
      if c = '\x7d' then
        if 0 < digits ∧ value.isValidChar then write (Char.ofNat value) else none
      else if digits < 6 then
        (hexDigit? c).bind fun d => readLiteral (.codePoint (digits + 1) (value * 16 + d)) rest
      else none

/-- The text that a quoted literal stands for, and what stands behind the literal. -/
def unquote? : List Char → Option (String × List Char)
  | '"' :: rest => (readLiteral .plain rest).map fun read => (String.ofList read.1, read.2)
  | _ => none

variable {rest : List Char}

/-- What a character is read as that is written as `escape`. -/
def ReadsAs (escape : List Char) (c : Char) : Prop :=
  ∀ rest, readLiteral .plain (escape ++ rest) =
    (readLiteral .plain rest).map fun read => (c :: read.1, read.2)

theorem readLiteral_digit {d digits value : Nat} (digit : d < 16) (room : digits < 6) :
    readLiteral (.codePoint digits value) (d.digitChar :: rest) =
      readLiteral (.codePoint (digits + 1) (value * 16 + d)) rest := by
  have known : ∀ d < 16, hexDigit? d.digitChar = some d ∧ d.digitChar ≠ '\x7d' := by decide
  obtain ⟨value?, open?⟩ := known d digit
  rw [readLiteral]
  simp only [open?, room, value?, if_true, if_false, Option.bind_some]

/-- The digits of a number come to that number. -/
theorem readLiteral_digits (n : Nat) : ∀ rest, (Nat.toDigits 16 n).length ≤ 6 →
    readLiteral (.codePoint 0 0) (Nat.toDigits 16 n ++ rest) =
      readLiteral (.codePoint (Nat.toDigits 16 n).length n) rest := by
  induction n using Nat.strongRecOn with
  | ind n ih =>
    intro rest short
    rcases Nat.lt_or_ge n 16 with small | large
    · rw [Nat.toDigits_of_lt_base small]
      have digit : readLiteral (.codePoint 0 0) (n.digitChar :: rest) =
          readLiteral (.codePoint 1 (0 * 16 + n)) rest := readLiteral_digit small (by decide)
      simpa using digit
    · rw [Nat.toDigits_of_base_le (by decide) large] at short ⊢
      rw [List.length_append, List.length_singleton] at short ⊢
      rw [List.append_assoc, ih (n / 16) (by omega) _ (by omega), List.singleton_append,
        readLiteral_digit (Nat.mod_lt n (by decide)) (by omega), Nat.div_add_mod']

theorem codePointEscape_reads (c : Char) : ReadsAs (codePointEscape c) c := by
  intro rest
  have some : 0 < (Nat.toDigits 16 c.toNat).length := List.length_pos_iff.mpr Nat.toDigits_ne_nil
  have valid : c.toNat.isValidChar := c.valid
  calc
    _ = readLiteral (.codePoint 0 0) (Nat.toDigits 16 c.toNat ++ '\x7d' :: rest) := by
      simp [codePointEscape, readLiteral]
    _ = readLiteral (.codePoint (Nat.toDigits 16 c.toNat).length c.toNat) ('\x7d' :: rest) :=
      readLiteral_digits c.toNat _ (DataModel.length_codePoint c)
    _ = _ := by
      rw [readLiteral]
      simp only [if_true, some, valid, and_self, Char.ofNat_toNat]

/-- A letter that is named behind a backslash. -/
theorem named_reads {letter c : Char} (named : escaped? letter = some c) (other : letter ≠ 'u') :
    ReadsAs ['\\', letter] c := by
  intro rest
  simp [readLiteral, named, other]

theorem escapeChar_reads (c : Char) : ReadsAs (escapeChar c) c := by
  unfold escapeChar
  split
  · exact named_reads (by decide) (by decide)
  · exact named_reads (by decide) (by decide)
  · exact named_reads (by decide) (by decide)
  · exact named_reads (by decide) (by decide)
  · exact named_reads (by decide) (by decide)
  · next quote backslash feed «return» tab =>
    split
    · next zero =>
      rw [show c = Char.ofNat 0 from zero ▸ (Char.ofNat_toNat c).symm]
      exact named_reads (by decide) (by decide)
    · split
      · exact codePointEscape_reads c
      · intro rest
        have plain : c ≠ '"' ∧ c ≠ '\\' ∧ c ≠ '\r' := ⟨quote, backslash, «return»⟩
        simp [readLiteral, plain]

/-- A quoted text reads as the text. -/
theorem unquote?_quote (s : String) (rest : List Char) :
    unquote? ((quote s).toList ++ rest) = some (s, rest) := by
  have body (chars : List Char) : readLiteral .plain (chars.flatMap escapeChar ++ '"' :: rest) =
      some (chars, rest) := by
    induction chars with
    | nil => rfl
    | cons c chars ih =>
      rw [List.flatMap_cons, List.append_assoc, escapeChar_reads c, ih, Option.map_some]
  have whole : (quote s).toList ++ rest = '"' :: (s.toList.flatMap escapeChar ++ '"' :: rest) := by
    simp [quote]
  rw [whole, unquote?, body, Option.map_some, String.ofList_toList]

/-! ## Lines -/

theorem pieces_ne_nil (mark : Char) (text : List Char) : pieces mark text ≠ [] := by
  cases text with
  | nil => simp [pieces]
  | cons c rest =>
    unfold pieces
    split
    · simp
    · split <;> simp

/-- A text up to a mark is the first piece. -/
theorem pieces_append {mark : Char} {text : List Char} (flat : mark ∉ text) (rest : List Char) :
    pieces mark (text ++ mark :: rest) = text :: pieces mark rest := by
  induction text with
  | nil =>
    rw [List.nil_append, pieces]
    split
    · next empty => exact (pieces_ne_nil mark rest empty).elim
    · next piece more same => rw [if_pos rfl, same]
  | cons c text ih =>
    obtain ⟨other, flat⟩ := not_or.mp (mt List.mem_cons.mpr flat)
    rw [List.cons_append, pieces, ih flat]
    exact if_neg (Ne.symm other)

end Text

namespace DataModel

/-! ## The reader -/

/-- What stands in a line between the braces of a struct. -/
inductive StructLine where
  | comment
  | rename (name : String)
  | omissible
  | field (ident type : String)
  | close

namespace StructLine

/-- The name in an attribute, whose text follows its equals sign. -/
def rename? (text : List Char) : Option StructLine :=
  (Text.unquote? text).bind fun (name, rest) => if rest = ")]".toList then some (.rename name) else none

/-- The identifier up to a colon, and the type behind it up to the comma at the end. -/
def field? (text : List Char) : Option StructLine :=
  ((text.dropWhile isWordChar).dropPrefix? ": ".toList).bind fun type =>
    if type.getLast? = some ',' then
      some (.field (String.ofList (text.takeWhile isWordChar)) (String.ofList type.dropLast))
    else none

def read? (l : List Char) : Option StructLine :=
  if l = "\x7d".toList then some .close
  else if l = "    #[serde(default, skip_serializing_if = \"Option::is_none\")]".toList then
    some .omissible
  else if (l.dropPrefix? "    ///".toList).isSome then some .comment
  else ((l.dropPrefix? "    #[serde(rename = ".toList).bind rename?).or
    ((l.dropPrefix? "    pub ".toList).bind field?)

end StructLine

/-- What the attributes in front of a field say. -/
structure Attributes where
  rename : Option String
  omissible : Bool

def Attributes.none : Attributes := ⟨.none, false⟩

def Attributes.declaration (attributes : Attributes) (ident type : String) : Declaration :=
  ⟨ident, type, attributes.rename.getD ident, attributes.omissible⟩

/-- The fields in the lines up to the closing brace. -/
def readFields (attributes : Attributes) : List (List Char) → Option (List Declaration)
  | [] => .none
  | l :: rest =>
    match StructLine.read? l with
    | some .comment => readFields attributes rest
    | some (.rename name) => readFields { attributes with rename := some name } rest
    | some .omissible => readFields { attributes with omissible := true } rest
    | some (.field ident type) =>
      (readFields .none rest).map (attributes.declaration ident type :: ·)
    | some .close => some []
    | .none => .none

/-- The lines behind the first closing brace. -/
def linesBehind (lines : List (List Char)) : List (List Char) :=
  (lines.dropWhile (· ≠ "\x7d".toList)).tail

/-- The fields in the lines up to the closing brace, and the lines behind it. -/
def takeFields (attributes : Attributes) (lines : List (List Char)) :
    Option (List Declaration × List (List Char)) :=
  (readFields attributes lines).map fun fields => (fields, linesBehind lines)

/-- The name between the words that open a block and its brace. -/
def blockName? (opening : String) (l : List Char) : Option String :=
  (l.dropPrefix? opening.toList).bind fun text =>
    if text.dropWhile isWordChar = " \x7b".toList then some (String.ofList (text.takeWhile isWordChar))
    else none

def structName? (l : List Char) : Option String := blockName? "pub struct " l

/-- The first struct in some lines: its name and its fields. -/
def readLines : List (List Char) → Option (String × List Declaration)
  | [] => none
  | l :: rest =>
    match structName? l with
    | some name => (readFields .none rest).map fun fields => (name, fields)
    | none => readLines rest

def readStruct (source : String) : Option (String × List Declaration) :=
  readLines (Text.pieces '\n' source.toList)

/-! ## Lines that are read -/

theorem dropPrefix?_self (start rest : List Char) : (start ++ rest).dropPrefix? start = some rest :=
  List.dropPrefix?_append_of_beq rest (beq_self_eq_true start)

theorem dropSuffix?_self (rest ending : List Char) : (rest ++ ending).dropSuffix? ending = some rest :=
  List.dropSuffix?_eq_some_iff.mpr ⟨ending, rfl, beq_self_eq_true ending⟩

theorem StructLine.read?_rename (text : List Char) :
    read? ("    #[serde(rename = ".toList ++ text) = (rename? text).or none := by
  have other : ("    #[serde(rename = ".toList ++ text).dropPrefix? "    pub ".toList = none := by
    simp [List.dropPrefix?]
  unfold read?
  rw [if_neg (by simp), if_neg (by simp), if_neg (by simp [List.dropPrefix?]),
    dropPrefix?_self, other]
  rfl

theorem StructLine.read?_field (text : List Char) : read? ("    pub ".toList ++ text) = field? text := by
  have other : ("    pub ".toList ++ text).dropPrefix? "    #[serde(rename = ".toList = none := by
    simp [List.dropPrefix?]
  unfold read?
  rw [if_neg (by simp), if_neg (by simp), if_neg (by simp [List.dropPrefix?]),
    dropPrefix?_self, other]
  rfl

theorem linesBehind_cons {l : List Char} (other : l ≠ "\x7d".toList) (rest : List (List Char)) :
    linesBehind (l :: rest) = linesBehind rest := by
  rw [linesBehind, List.dropWhile_cons_of_pos (by simpa using other), linesBehind]

theorem StructLine.ne_of_read? {l : List Char} {kind : StructLine} (form : read? l = some kind)
    (goes : kind ≠ .close) : l ≠ "\x7d".toList := by
  rintro rfl
  exact goes (Option.some.inj form).symm

variable {attributes : Attributes} {rest s : String}

theorem pieces_line (flat : '\n' ∉ s.toList) :
    Text.pieces '\n' (line s ++ rest).toList = s.toList :: Text.pieces '\n' rest.toList := by
  have split : (line s ++ rest).toList = s.toList ++ '\n' :: rest.toList := by simp [line]
  rw [split, Text.pieces_append flat]

/-- Whoever skips the lines of a comment skips the comment. -/
theorem skips_comment {α : Type} {read : String → α} {indent : String}
    (skips : ∀ text rest, '\n' ∉ text.toList → read (commentLine indent text ++ rest) = read rest)
    (text : Option String) (rest : String) : read (comment indent text ++ rest) = read rest := by
  cases text with
  | none => rw [comment, String.empty_append]
  | some text =>
    rw [comment]
    have each : ∀ l ∈ Text.lines text, '\n' ∉ l.toList := fun l => not_mem_lines
    generalize Text.lines text = lines at each ⊢
    induction lines with
    | nil => simp
    | cons l lines ih =>
      obtain ⟨flat, others⟩ := List.forall_mem_cons.mp each
      rw [List.map_cons, String.join_cons, String.append_assoc, skips _ _ flat, ih others]

/-- The fields in the text up to the closing brace, and the lines behind it. -/
def readBody (attributes : Attributes) (text : String) :
    Option (List Declaration × List (List Char)) :=
  takeFields attributes (Text.pieces '\n' text.toList)

theorem readBody_line {kind : StructLine} (flat : '\n' ∉ s.toList)
    (form : StructLine.read? s.toList = some kind) (goes : kind ≠ .close) :
    readBody attributes (line s ++ rest) =
      (readFields attributes (s.toList :: Text.pieces '\n' rest.toList)).map
        fun fields => (fields, linesBehind (Text.pieces '\n' rest.toList)) := by
  rw [readBody, pieces_line flat, takeFields,
    linesBehind_cons (StructLine.ne_of_read? form goes)]

theorem readBody_commentLine {text : String} (flat : '\n' ∉ text.toList) :
    readBody attributes (commentLine fieldIndent text ++ rest) = readBody attributes rest := by
  have form : StructLine.read? (fieldIndent ++ "/// " ++ text).toList = some .comment := by
    simp [StructLine.read?, fieldIndent, List.dropPrefix?]
  have whole : '\n' ∉ (fieldIndent ++ "/// " ++ text).toList := by simpa [fieldIndent] using flat
  rw [commentLine, readBody_line whole form nofun, readFields, form]
  rfl

theorem readBody_comment (text : Option String) :
    readBody attributes (comment fieldIndent text ++ rest) = readBody attributes rest :=
  skips_comment (fun _ _ => readBody_commentLine) text rest

theorem readBody_noteLine {label : String} {text : Option String} (plain : '\n' ∉ label.toList)
    (flat : ∀ t ∈ text, '\n' ∉ t.toList) :
    readBody attributes (noteLine label text ++ rest) = readBody attributes rest := by
  cases text with
  | none => rw [noteLine, String.empty_append]
  | some text => exact readBody_commentLine (by simpa using ⟨plain, flat text rfl⟩)

theorem readBody_renameLine (field : FieldItem) :
    readBody .none (field.renameLine ++ rest) = readBody ⟨field.rename, false⟩ rest := by
  unfold FieldItem.renameLine
  split
  · next none => rw [none, String.empty_append, Attributes.none]
  · next name present =>
    have text : (fieldIndent ++ "#[serde(rename = " ++ Text.quote name ++ ")]").toList =
        "    #[serde(rename = ".toList ++ ((Text.quote name).toList ++ ")]".toList) := by
      simp [fieldIndent]
    have form : StructLine.read? (fieldIndent ++ "#[serde(rename = " ++ Text.quote name ++ ")]").toList =
        some (.rename name) := by
      rw [text, StructLine.read?_rename, StructLine.rename?, Text.unquote?_quote]
      rfl
    have whole : '\n' ∉ (fieldIndent ++ "#[serde(rename = " ++ Text.quote name ++ ")]").toList := by
      simpa [fieldIndent] using (Literal.quote name).flat
    rw [readBody_line whole form nofun, readFields, form, present]
    rfl

theorem readBody_optionalLine (field : FieldItem) (rename : Option String) :
    readBody ⟨rename, false⟩ (field.optionalLine ++ rest) =
      readBody ⟨rename, field.optional⟩ rest := by
  unfold FieldItem.optionalLine
  split
  · next present =>
    have form : StructLine.read?
        (fieldIndent ++ "#[serde(default, skip_serializing_if = \"Option::is_none\")]").toList =
        some .omissible := by
      simp [StructLine.read?, fieldIndent]
    rw [readBody_line (by simp [fieldIndent]) form nofun, readFields, form, present]
    rfl
  · next absent => rw [String.empty_append, (Bool.not_eq_true _).mp absent]

theorem takeWhile_word {chars : List Char} {c : Char} (word : ∀ c ∈ chars, isWordChar c = true)
    (other : isWordChar c = false) (rest : List Char) :
    (chars ++ c :: rest).takeWhile isWordChar = chars ∧
      (chars ++ c :: rest).dropWhile isWordChar = c :: rest := by
  rw [List.takeWhile_append_of_pos word, List.dropWhile_append_of_pos word]
  simp [other]

theorem readBody_field {ident type : String} (word : Word ident) (flat : '\n' ∉ type.toList)
    (attributes : Attributes) (rest : String) :
    readBody attributes (line (fieldIndent ++ "pub " ++ ident ++ ": " ++ type ++ ",") ++ rest) =
      (readBody .none rest).map fun read =>
        (attributes.declaration ident type :: read.1, read.2) := by
  obtain ⟨name, behind⟩ := takeWhile_word word.chars (show isWordChar ':' = false by decide)
    (' ' :: (type.toList ++ [',']))
  have text : (fieldIndent ++ "pub " ++ ident ++ ": " ++ type ++ ",").toList =
      "    pub ".toList ++ (ident.toList ++ ':' :: ' ' :: (type.toList ++ [','])) := by
    simp [fieldIndent]
  have colon : (':' :: ' ' :: (type.toList ++ [','])).dropPrefix? ": ".toList =
      some (type.toList ++ [',']) :=
    dropPrefix?_self ": ".toList _
  have form : StructLine.read? (fieldIndent ++ "pub " ++ ident ++ ": " ++ type ++ ",").toList =
      some (.field ident type) := by
    rw [text, StructLine.read?_field, StructLine.field?, name, behind, colon, Option.bind_some]
    simp
  have whole : '\n' ∉ (fieldIndent ++ "pub " ++ ident ++ ": " ++ type ++ ",").toList := by
    simpa [fieldIndent] using ⟨word.flat, flat⟩
  rw [readBody_line whole form nofun, readFields, form, readBody, takeFields]
  simp only [Option.map_map]
  rfl

/-- The text of a field reads as the field. -/
theorem readBody_source {field : FieldItem} (word : Word field.ident)
    (flat : '\n' ∉ field.type.source.toList) :
    readBody .none (field.source ++ rest) =
      (readBody .none rest).map fun read => (field.declaration :: read.1, read.2) := by
  have note : ∀ t ∈ field.note.map LeafNote.text, '\n' ∉ t.toList := by
    intro text present
    obtain ⟨note, -, rfl⟩ := Option.map_eq_some_iff.mp present
    exact note.text_flat
  have limit (bound : Option Nat) : ∀ t ∈ bound.map toString, '\n' ∉ t.toList := by
    intro text present
    obtain ⟨n, -, rfl⟩ := Option.map_eq_some_iff.mp present
    exact fun member => absurd (isWordChar_toString _ member) (by decide)
  simp only [FieldItem.source, String.append_assoc]
  rw [readBody_comment, readBody_comment, readBody_noteLine (by decide) note,
    readBody_noteLine (by decide) (limit field.minLength),
    readBody_noteLine (by decide) (limit field.maxLength), readBody_renameLine,
    readBody_optionalLine]
  have declared := readBody_field word flat ⟨field.rename, field.optional⟩ rest
  simp only [String.append_assoc] at declared
  exact declared

theorem readBody_fields {fields : List FieldItem}
    (each : ∀ field ∈ fields, Word field.ident ∧ '\n' ∉ field.type.source.toList) (rest : String) :
    readBody .none (String.join (fields.map FieldItem.source) ++ (line "\x7d" ++ rest)) =
      some (fields.map FieldItem.declaration, Text.pieces '\n' rest.toList) := by
  induction fields with
  | nil =>
    rw [List.map_nil, String.join_nil, String.empty_append, readBody, pieces_line (by decide)]
    rfl
  | cons field fields ih =>
    obtain ⟨⟨word, flat⟩, others⟩ := List.forall_mem_cons.mp each
    rw [List.map_cons, String.join_cons, String.append_assoc, readBody_source word flat, ih others]
    rfl

/-! ## The text of a record -/

theorem blockName?_other {opening : String} {l : List Char}
    (other : l.dropPrefix? opening.toList = none) : blockName? opening l = none := by
  rw [blockName?, other, Option.bind_none]

theorem readStruct_line (flat : '\n' ∉ s.toList) (other : structName? s.toList = none) :
    readStruct (line s ++ rest) = readStruct rest := by
  rw [readStruct, pieces_line flat, readLines, other]
  rfl

theorem readStruct_commentLine {text : String} (flat : '\n' ∉ text.toList) :
    readStruct (commentLine "" text ++ rest) = readStruct rest := by
  refine readStruct_line (by simpa using flat) ?_
  exact blockName?_other (by simp [List.dropPrefix?])

theorem readStruct_comment (text : Option String) :
    readStruct (comment "" text ++ rest) = readStruct rest :=
  skips_comment (fun _ _ => readStruct_commentLine) text rest

theorem readStruct_commentGap (title description : Option String) :
    readStruct (commentGap title description ++ rest) = readStruct rest := by
  unfold commentGap
  split
  · exact readStruct_line (by decide) (by decide)
  · rw [String.empty_append]

theorem blockName?_open {name : String} (word : Word name) (opening : String) :
    blockName? opening (opening ++ name ++ " \x7b").toList = some name := by
  obtain ⟨same, behind⟩ := takeWhile_word word.chars (show isWordChar ' ' = false by decide)
    ['\x7b']
  have text : (opening ++ name ++ " \x7b").toList =
      opening.toList ++ (name.toList ++ ' ' :: ['\x7b']) := by simp
  rw [text, blockName?, dropPrefix?_self, Option.bind_some, same, behind]
  simp

theorem readStruct_open {name : String} (word : Word name) (rest : String) :
    readStruct (line ("pub struct " ++ name ++ " \x7b") ++ rest) =
      (readBody .none rest).map fun read => (name, read.1) := by
  have form : structName? ("pub struct " ++ name ++ " \x7b").toList = some name :=
    blockName?_open word "pub struct "
  have whole : '\n' ∉ ("pub struct " ++ name ++ " \x7b").toList := by simpa using word.flat
  rw [readStruct, pieces_line whole, readLines, form, readBody, takeFields, Option.map_map]
  rfl

/-- The text of a record reads as its name and its fields. -/
theorem readStruct_source {name : String} {title description : Option String}
    {fields : List FieldItem} (word : Word name)
    (each : ∀ field ∈ fields, Word field.ident ∧ '\n' ∉ field.type.source.toList) :
    readStruct (Item.record name title description fields).source =
      some (name, fields.map FieldItem.declaration) := by
  simp only [Item.source, String.append_assoc]
  rw [readStruct_line (by decide) (by decide), readStruct_comment, readStruct_commentGap,
    readStruct_comment, readStruct_line (by decide) (by decide)]
  have opened := readStruct_open word (String.join (fields.map FieldItem.source) ++ line "\x7d")
  rw [String.append_assoc, ← String.append_empty (s := line "\x7d"), readBody_fields each] at opened
  exact opened

end DataModel

end SchemaTypes
