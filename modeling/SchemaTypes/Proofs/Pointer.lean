import SchemaTypes.Schema.Reference

/-! Pieces of a pointer text, and the references that name a definition. -/
namespace SchemaTypes

namespace Pointer

/-- Pieces with slashes between them. -/
def join : List (List Char) → List Char
  | [] => []
  | [piece] => piece
  | piece :: rest => piece ++ '/' :: join rest

theorem split_ne_nil (text : List Char) : split text ≠ [] := by
  cases text with
  | nil => simp [split]
  | cons c rest =>
    unfold split
    split
    · simp
    · split <;> simp

theorem split_cons_slash (rest : List Char) : split ('/' :: rest) = [] :: split rest := by
  rw [split]
  split
  · next empty => exact (split_ne_nil rest empty).elim
  · next piece more same => rw [if_pos rfl, same]

theorem split_cons {c : Char} (plain : c ≠ '/') {piece : List Char} {more : List (List Char)}
    {rest : List Char} (pieces : split rest = piece :: more) :
    split (c :: rest) = (c :: piece) :: more := by
  rw [split, pieces]
  exact if_neg plain

theorem join_cons_cons (c : Char) (piece : List Char) (more : List (List Char)) :
    join ((c :: piece) :: more) = c :: join (piece :: more) := by
  cases more <;> rfl

/-- Nothing is lost when a text is cut at its slashes. -/
theorem join_split (text : List Char) : join (split text) = text := by
  induction text with
  | nil => rfl
  | cons c rest ih =>
    cases pieces : split rest with
    | nil => exact (split_ne_nil rest pieces).elim
    | cons piece more =>
      rw [pieces] at ih
      by_cases slash : c = '/'
      · subst slash
        rw [split_cons_slash, pieces]
        simp only [join, List.nil_append, ih]
      · rw [split_cons slash pieces, join_cons_cons, ih]

/-- No piece has a slash in it. -/
theorem no_slash (text : List Char) : ∀ piece ∈ split text, '/' ∉ piece := by
  induction text with
  | nil => simp [split]
  | cons c rest ih =>
    cases pieces : split rest with
    | nil => exact (split_ne_nil rest pieces).elim
    | cons piece more =>
      rw [pieces] at ih
      by_cases slash : c = '/'
      · subst slash
        rw [split_cons_slash, pieces]
        exact List.forall_mem_cons.mpr ⟨List.not_mem_nil, ih⟩
      · rw [split_cons slash pieces]
        obtain ⟨first, others⟩ := List.forall_mem_cons.mp ih
        refine List.forall_mem_cons.mpr ⟨fun member => ?_, others⟩
        rcases List.mem_cons.mp member with same | member
        · exact slash same.symm
        · exact first member

theorem split_of_no_slash {text : List Char} (plain : '/' ∉ text) : split text = [text] := by
  induction text with
  | nil => rfl
  | cons c rest ih =>
    obtain ⟨first, others⟩ := not_or.mp (mt List.mem_cons.mpr plain)
    exact split_cons (Ne.symm first) (ih others)

theorem split_append_of_slash {segment text : List Char} {pieces : List (List Char)}
    (plain : '/' ∉ segment) (behind : split text = [] :: pieces) :
    split (segment ++ text) = segment :: pieces := by
  induction segment with
  | nil => exact behind
  | cons c segment ih =>
    obtain ⟨first, others⟩ := not_or.mp (mt List.mem_cons.mpr plain)
    exact split_cons (Ne.symm first) (ih others)

theorem split_append {text : List Char} (plain : '/' ∉ text) (rest : List Char) :
    split (text ++ '/' :: rest) = text :: split rest :=
  split_append_of_slash plain (split_cons_slash rest)

/-- A text of two segments behind slashes, and nothing else, is cut into these. -/
theorem split_eq_pair {text first second : List Char} :
    split text = [[], first, second] ↔
      text = '/' :: (first ++ '/' :: second) ∧ '/' ∉ first ∧ '/' ∉ second := by
  constructor
  · intro pieces
    have plain := no_slash text
    have whole := join_split text
    rw [pieces] at plain whole
    exact ⟨whole.symm, plain first (by simp), plain second (by simp)⟩
  · rintro ⟨rfl, plain, plain'⟩
    rw [split_cons_slash, split_append plain, split_of_no_slash plain']

/-! ## Escaping -/

/-- A character of a segment when slashes are plain again and tildes are not. -/
def escapeTilde (c : Char) : List Char := if c = '~' then ['~', '0'] else [c]

variable {digit replacement c : Char} {rest : List Char}

theorem replacePair_cons (plain : c ≠ '~') :
    replacePair digit replacement (c :: rest) = c :: replacePair digit replacement rest := by
  cases rest with
  | nil => rfl
  | cons d rest => simp [replacePair, plain]

theorem replacePair_tilde_self :
    replacePair digit replacement ('~' :: digit :: rest) =
      replacement :: replacePair digit replacement rest := by
  simp [replacePair]

theorem replacePair_tilde_other {d : Char} (differ : d ≠ digit) :
    replacePair digit replacement ('~' :: d :: rest) =
      '~' :: replacePair digit replacement (d :: rest) := by
  simp [replacePair, differ]

theorem replace_slashes (text : List Char) :
    replacePair '1' '/' (text.flatMap escapeChar) = text.flatMap escapeTilde := by
  induction text with
  | nil => rfl
  | cons c rest ih =>
    rw [List.flatMap_cons, List.flatMap_cons]
    by_cases tilde : c = '~'
    · subst tilde
      simp only [escapeChar, escapeTilde, if_true, List.cons_append, List.nil_append]
      rw [replacePair_tilde_other (by decide), replacePair_cons (by decide), ih]
    · by_cases slash : c = '/'
      · subst slash
        simp only [escapeChar, escapeTilde, if_neg tilde, if_true, List.cons_append,
          List.nil_append]
        rw [replacePair_tilde_self, ih]
      · simp only [escapeChar, escapeTilde, if_neg tilde, if_neg slash, List.singleton_append]
        rw [replacePair_cons tilde, ih]

theorem replace_tildes (text : List Char) :
    replacePair '0' '~' (text.flatMap escapeTilde) = text := by
  induction text with
  | nil => rfl
  | cons c rest ih =>
    rw [List.flatMap_cons]
    by_cases tilde : c = '~'
    · subst tilde
      simp only [escapeTilde, if_true, List.cons_append, List.nil_append]
      rw [replacePair_tilde_self, ih]
    · simp only [escapeTilde, if_neg tilde, List.singleton_append]
      rw [replacePair_cons tilde, ih]

/-- A segment that was escaped reads as it was. -/
theorem unescape_escape (segment : String) : unescape (escape segment) = segment := by
  simp only [unescape, escape, String.toList_ofList, unescapeChars, replace_slashes,
    replace_tildes, String.ofList_toList]

theorem escape_no_slash (segment : String) : '/' ∉ (escape segment).toList := by
  simp only [escape, String.toList_ofList, List.mem_flatMap, not_exists, not_and]
  intro c _ inside
  unfold escapeChar at inside
  split at inside
  · simp at inside
  · split at inside
    · simp at inside
    · next slash => exact slash (List.mem_singleton.mp inside).symm

theorem escape_ne_empty {segment : String} (full : segment ≠ "") : escape segment ≠ "" := by
  intro empty
  have back := unescape_escape segment
  rw [empty] at back
  exact full back.symm

end Pointer

namespace Reference

/-- A reference names a definition: `#/`, the keyword of a block, a slash and one segment, in which
the name is escaped. -/
inductive Names : String → String → Prop where
  | intro {keyword segment : String} : keyword ∈ Definitions.keywords → segment ≠ "" →
      '/' ∉ segment.toList → Names ("#/" ++ keyword ++ "/" ++ segment) (Pointer.unescape segment)

theorem split_reference {keyword segment : String} (plain : '/' ∉ keyword.toList)
    (closed : '/' ∉ segment.toList) :
    Pointer.split ("/" ++ keyword ++ "/" ++ segment).toList =
      [[], keyword.toList, segment.toList] :=
  Pointer.split_eq_pair.mpr ⟨by simp, plain, closed⟩

theorem nameUnder?_eq_some {keyword fragment name : String} (plain : '/' ∉ keyword.toList) :
    nameUnder? keyword fragment = some name ↔
      ∃ segment : String, segment ≠ "" ∧ '/' ∉ segment.toList ∧
        fragment = "/" ++ keyword ++ "/" ++ segment ∧ name = Pointer.unescape segment := by
  unfold nameUnder?
  constructor
  · intro found
    split at found
    · next first second pieces =>
      split at found
      · next agree =>
        cases found
        obtain ⟨rfl, full⟩ := agree
        obtain ⟨whole, -, closed⟩ := Pointer.split_eq_pair.mp pieces
        refine ⟨String.ofList second, ?_, by simpa using closed, ?_, by simp [Pointer.unescape]⟩
        · intro empty
          exact full (by simpa using congrArg String.toList empty)
        · apply String.toList_injective
          simpa using whole
      · cases found
    · cases found
  · rintro ⟨segment, full, closed, rfl, rfl⟩
    have filled : segment.toList ≠ [] := by
      intro empty
      exact full (String.toList_injective (by simpa using empty))
    rw [split_reference plain closed]
    simp [filled, Pointer.unescape]

theorem definitionName?_eq_some {fragment name : String} :
    definitionName? fragment = some name ↔
      ∃ keyword ∈ Definitions.keywords, ∃ segment : String, segment ≠ "" ∧ '/' ∉ segment.toList ∧
        fragment = "/" ++ keyword ++ "/" ++ segment ∧ name = Pointer.unescape segment := by
  have plain : ∀ keyword ∈ Definitions.keywords, '/' ∉ keyword.toList := by decide
  unfold definitionName?
  constructor
  · intro found
    obtain ⟨keyword, listed, named⟩ := List.exists_of_findSome?_eq_some found
    exact ⟨keyword, listed, (nameUnder?_eq_some (plain keyword listed)).mp named⟩
  · rintro ⟨keyword, listed, segment, full, closed, rfl, rfl⟩
    -- Whatever the search finds first, it is this keyword and this segment.
    have present : (Definitions.keywords.findSome?
        (nameUnder? · ("/" ++ keyword ++ "/" ++ segment))).isSome := by
      rw [List.findSome?_isSome_iff]
      refine ⟨keyword, listed, Option.isSome_iff_exists.mpr ⟨Pointer.unescape segment, ?_⟩⟩
      exact (nameUnder?_eq_some (plain keyword listed)).mpr ⟨segment, full, closed, rfl, rfl⟩
    obtain ⟨name, found⟩ := Option.isSome_iff_exists.mp present
    obtain ⟨other, listed', named⟩ := List.exists_of_findSome?_eq_some found
    obtain ⟨segment', -, closed', same, rfl⟩ := (nameUnder?_eq_some (plain other listed')).mp named
    have pieces := split_reference (plain keyword listed) closed
    rw [same, split_reference (plain other listed') closed'] at pieces
    simp only [List.cons.injEq, true_and, and_true] at pieces
    rw [found, String.toList_injective pieces.2]

theorem localFragment?_eq_some {reference fragment : String} :
    localFragment? reference = some fragment ↔ reference = "#" ++ fragment := by
  unfold localFragment?
  constructor
  · intro found
    split at found
    · next rest text =>
      cases found
      apply String.toList_injective
      simpa using text
    · cases found
  · rintro rfl
    simp

/-- The references that name a definition of the document they stand in, and no others. -/
theorem names_iff {reference name : String} :
    Names reference name ↔ ∃ fragment, localFragment? reference = some fragment ∧
      definitionName? fragment = some name := by
  have hash (keyword segment : String) :
      "#/" ++ keyword ++ "/" ++ segment = "#" ++ ("/" ++ keyword ++ "/" ++ segment) :=
    String.toList_injective (by simp)
  simp only [localFragment?_eq_some, definitionName?_eq_some]
  constructor
  · rintro ⟨listed, full, closed⟩
    exact ⟨_, hash _ _, _, listed, _, full, closed, rfl, rfl⟩
  · rintro ⟨_, rfl, keyword, listed, segment, full, closed, rfl, rfl⟩
    rw [← hash]
    exact .intro listed full closed

/-- The reference to a definition, with its name escaped, names it. -/
theorem names_escape {keyword name : String} (listed : keyword ∈ Definitions.keywords)
    (full : name ≠ "") : Names ("#/" ++ keyword ++ "/" ++ Pointer.escape name) name := by
  have names := Names.intro listed (Pointer.escape_ne_empty full) (Pointer.escape_no_slash name)
  rwa [Pointer.unescape_escape] at names

end Reference

end SchemaTypes
