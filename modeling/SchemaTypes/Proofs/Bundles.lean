import SchemaTypes.Proofs.Keyed
import SchemaTypes.Proofs.LocationKinds
import SchemaTypes.Schema.Loader

/-! What a bundle serves, after any number of insertions. Documents are found by the text of a location,
whereas locations, those of open documents too, are told apart by their keys: a document is not found
under another spelling of its path, and a URL and a path of one text share a document. -/
namespace SchemaTypes

namespace Location

variable {location other : Location}

theorem same_iff : location.same other = true ↔ location.key = other.key := beq_iff_eq

/-- A text that is read as a path is kept as it is. -/
theorem eq_of_parse_path {text path : String} (parsed : parse text = .path path) : path = text := by
  rcases parse_cases text with ⟨url, same, -⟩ | ⟨same, -⟩
  · cases same.symm.trans parsed
  · exact (Location.path.inj (same.symm.trans parsed)).symm

/-- Locations with one key and different texts are paths. -/
theorem paths_of_same (same : location.same other = true) (differ : location.text ≠ other.text) :
    ∃ path path', location = .path path ∧ other = .path path' ∧ path ≠ path' ∧
      FilePath.components path = FilePath.components path' := by
  rw [same_iff] at same
  cases location with
  | url url =>
    cases other with
    | url url' => exact (differ (Key.url.inj same)).elim
    | path => cases same
  | path path =>
    cases other with
    | url => cases same
    | path path' => exact ⟨path, path', rfl, rfl, differ, by simpa [key] using same⟩

/-- Locations with one text and different keys are a URL and the path that its text is. -/
theorem url_of_text (text : location.text = other.text) (differ : ¬ location.same other = true) :
    ∃ url, location = .url url ∧ other = .path url.text ∨
      location = .path url.text ∧ other = .url url := by
  rw [same_iff] at differ
  cases location with
  | url url =>
    cases other with
    | url url' => exact (differ (congrArg Key.url text)).elim
    | path path =>
      cases (show url.text = path from text)
      exact ⟨url, .inl ⟨rfl, rfl⟩⟩
  | path path =>
    cases other with
    | url url =>
      cases (show path = url.text from text)
      exact ⟨url, .inr ⟨rfl, rfl⟩⟩
    | path path' =>
      cases (show path = path' from text)
      exact (differ rfl).elim

end Location

namespace Bundle

open Location

/-- The last insertion whose location has a property puts `document` under `href`. -/
inductive Last (fits : Location → Prop) : List (String × Json) → String → Json → Prop where
  | here {before : List (String × Json)} {href : String} {document : Json} :
      fits (parse href) → Last fits (before ++ [(href, document)]) href document
  | earlier {before : List (String × Json)} {pair : String × Json} {href : String}
      {document : Json} : ¬ fits (parse pair.1) → Last fits before href document →
      Last fits (before ++ [pair]) href document

variable {fits : Location → Prop} {pairs : List (String × Json)} {location : Location}
  {href : String} {document : Json}

theorem exists_last (fits : Location → Prop) (present : ∃ pair ∈ pairs, fits (parse pair.1)) :
    ∃ href document, Last fits pairs href document := by
  induction pairs using List.reverseRecOn with
  | nil => simp at present
  | append_singleton before pair ih =>
    by_cases latest : fits (parse pair.1)
    · exact ⟨pair.1, pair.2, .here latest⟩
    · obtain ⟨other, member, fitting⟩ := present
      have inside : other ∈ before := by
        rcases List.mem_append.mp member with inside | last
        · exact inside
        · cases List.mem_singleton.mp last
          exact (latest fitting).elim
      obtain ⟨href, document, last⟩ := ih ⟨other, inside, fitting⟩
      exact ⟨href, document, .earlier latest last⟩

theorem Last.mem (last : Last fits pairs href document) : (href, document) ∈ pairs := by
  induction last with
  | here => simp
  | earlier _ _ ih => exact List.mem_append_left _ ih

theorem Last.fitting (last : Last fits pairs href document) : fits (parse href) := by
  induction last with
  | here fitting => exact fitting
  | earlier _ _ ih => exact ih

/-! ## Insertions -/

/-- A document that is put in is served under the text of its location, and hides only what was served
under that text. -/
theorem load_insert (bundle : Bundle) (href : String) (document : Json) (location : Location) :
    (bundle.insert href document).load location =
      if (parse href).text = location.text then .ok document else bundle.load location := by
  unfold load insert
  by_cases same : (parse href).text = location.text
  · rw [if_pos same, same, Keyed.lookup_insert_self]
  · rw [if_neg same, Keyed.lookup_insert_of_ne (Ne.symm same)]

theorem ofPairs_concat (before : List (String × Json)) (pair : String × Json) :
    ofPairs (before ++ [pair]) = (ofPairs before).insert pair.1 pair.2 := by
  rw [ofPairs, List.foldl_append]
  rfl

/-- What is served is the document last put in under the text of the location. -/
theorem load_ofPairs_iff : (ofPairs pairs).load location = .ok document ↔
    ∃ href, Last (·.text = location.text) pairs href document := by
  constructor
  · intro loaded
    induction pairs using List.reverseRecOn with
    | nil => cases loaded
    | append_singleton before pair ih =>
      rw [ofPairs_concat, load_insert] at loaded
      split at loaded
      · next same =>
        cases loaded
        exact ⟨pair.1, .here same⟩
      · next differ =>
        obtain ⟨href, last⟩ := ih loaded
        exact ⟨href, .earlier differ last⟩
  · rintro ⟨href, last⟩
    induction last with
    | here same => rw [ofPairs_concat, load_insert, if_pos same]
    | earlier differ _ ih => rw [ofPairs_concat, load_insert, if_neg differ, ih]

/-! ## Equal locations -/

/-- A location is a path, and `href` spells it in another way. -/
def Respelled (href : String) (location : Location) : Prop :=
  ∃ path, location = .path path ∧ href ≠ path ∧ FilePath.components href = FilePath.components path

/-- The text of a location is that of a URL that was put in, and is read as a path. -/
def Confused (pairs : List (String × Json)) (location : Location) : Prop :=
  ∃ url, (∃ pair ∈ pairs, parse pair.1 = .url url) ∧ url.text = location.text ∧
    parse url.text = .path url.text

theorem Confused.concat (confused : Confused pairs location) (pair : String × Json) :
    Confused (pairs ++ [pair]) location := by
  obtain ⟨url, ⟨inserted, member, parsed⟩, text⟩ := confused
  exact ⟨url, ⟨inserted, List.mem_append_left _ member, parsed⟩, text⟩

theorem respelled_of_same (same : (parse href).same location = true)
    (differ : (parse href).text ≠ location.text) : Respelled href location := by
  obtain ⟨path, path', parsed, rfl, differ, alike⟩ := paths_of_same same differ
  cases eq_of_parse_path parsed
  exact ⟨path', rfl, differ, alike⟩

/-- A later document under the text of a location, but under another key, is put in under a URL when the
location is a path, and under a path when it is a URL. -/
theorem confused_of_later {pair : String × Json} (member : (href, document) ∈ pairs)
    (same : (parse href).same location = true) (spelled : (parse href).text = location.text)
    (text : (parse pair.1).text = location.text) (differ : ¬ (parse pair.1).same location = true) :
    Confused (pairs ++ [pair]) location := by
  obtain ⟨url, ⟨parsed, rfl⟩ | ⟨parsed, rfl⟩⟩ := url_of_text text differ
  · refine ⟨url, ⟨pair, by simp, parsed⟩, rfl, ?_⟩
    cases first : parse href with
    | url other =>
      rw [first] at same
      cases same
    | path path =>
      rw [first] at spelled
      cases (show path = url.text from spelled)
      exact eq_of_parse_path first ▸ first
  · cases first : parse href with
    | url other =>
      rw [first] at spelled
      refine ⟨other, ⟨(href, document), List.mem_append_left _ member, first⟩, spelled, ?_⟩
      rw [show other.text = url.text from spelled]
      exact eq_of_parse_path parsed ▸ parsed
    | path path =>
      rw [first] at same
      cases same

/-- The document last put in under an equal location is served, unless that location is spelled in another
way, or a text is that of a URL and of a path. -/
theorem load_of_last (last : Last (·.same location = true) pairs href document) :
    (ofPairs pairs).load location = .ok document ∨ Respelled href location ∨
      Confused pairs location := by
  induction last with
  | @here before href document same =>
    by_cases spelled : (parse href).text = location.text
    · exact .inl (by rw [ofPairs_concat, load_insert, if_pos spelled])
    · exact .inr (.inl (respelled_of_same same spelled))
  | @earlier before pair href document differ last ih =>
    by_cases text : (parse pair.1).text = location.text
    · right
      by_cases spelled : (parse href).text = location.text
      · exact .inr (confused_of_later last.mem last.fitting spelled text differ)
      · exact .inl (respelled_of_same last.fitting spelled)
    · rw [ofPairs_concat, load_insert, if_neg text]
      exact ih.imp_right (.imp_right (Confused.concat · pair))

/-- A bundle serves what was put in last under the text of a location. Where a reference leads to a location
that a document was put in under, this is the document put in last under an equal location, unless the path
is spelled in another way there, or a URL was put in whose text is read as a path. -/
theorem load_finds {pairs : List (String × Json)} {reference : String} {base : Option Location}
    (inserted : ∃ pair ∈ pairs, (parse pair.1).same (resolve reference base) = true) :
    (∀ document, (ofPairs pairs).load (resolve reference base) = .ok document ↔
      ∃ href, Last (·.text = (resolve reference base).text) pairs href document) ∧
    ∃ href document, Last (·.same (resolve reference base) = true) pairs href document ∧
      ((ofPairs pairs).load (resolve reference base) = .ok document ∨
        Respelled href (resolve reference base) ∨ Confused pairs (resolve reference base)) := by
  constructor
  · intro document
    exact load_ofPairs_iff
  · obtain ⟨href, document, last⟩ := exists_last (·.same (resolve reference base) = true) inserted
    exact ⟨href, document, last, load_of_last last⟩

theorem load_finds_dottedPath :
    let pairs := [("d//b.json", .null), ("d/./b.json", .bool true)]
    let location := resolve "./b.json" (some (parse "d/a.json"))
    (∃ pair ∈ pairs, (parse pair.1).same location = true) ∧
      Last (·.same location = true) pairs "d/./b.json" (.bool true) ∧
      (ofPairs pairs).load location = .ok (.bool true) ∧
      ∃ href document, Last (·.same location = true) pairs href document ∧
        ((ofPairs pairs).load location = .ok document ∨ Respelled href location ∨
          Confused pairs location) := by
  intro pairs location
  have inserted : ∃ pair ∈ pairs, (parse pair.1).same location = true :=
    ⟨("d//b.json", .null), by simp [pairs], by decide⟩
  obtain ⟨served, found⟩ := load_finds inserted
  have last : Last (·.same location = true) ([("d//b.json", .null)] ++ [("d/./b.json", .bool true)])
      "d/./b.json" (.bool true) := .here (by decide)
  have spelled : Last (·.text = location.text)
      ([("d//b.json", .null)] ++ [("d/./b.json", .bool true)]) "d/./b.json" (.bool true) :=
    .here (by decide)
  exact ⟨inserted, last, (served _).mpr ⟨_, spelled⟩, found⟩

/-- The spelling of a path counts: a reference can lead to the location of a document and find nothing, or
find a document that was replaced there. -/
theorem load_misses_spelling :
    ((parse "d/b.json").same (resolve "./b.json" (some (parse "d/a.json"))) = true ∧
      (ofPairs [("d/b.json", .null)]).load (resolve "./b.json" (some (parse "d/a.json"))) =
        .error (.notBundled "d/./b.json")) ∧
    ((parse "x//a.json").same (resolve "x/a.json" none) = true ∧
      (ofPairs [("x/a.json", .null), ("x//a.json", .bool true)]).load (resolve "x/a.json" none) =
        .ok .null) ∧
    ¬ ∀ (pairs : List (String × Json)) (reference : String) (base : Option Location),
      (∃ pair ∈ pairs, (parse pair.1).same (resolve reference base) = true) →
        ∃ href document, Last (·.same (resolve reference base) = true) pairs href document ∧
          (ofPairs pairs).load (resolve reference base) = .ok document := by
  have same : (parse "d/b.json").same (resolve "./b.json" (some (parse "d/a.json"))) = true := by
    decide
  have missing : (ofPairs [("d/b.json", .null)]).load
      (resolve "./b.json" (some (parse "d/a.json"))) = .error (.notBundled "d/./b.json") := by rfl
  refine ⟨⟨same, missing⟩, ⟨by decide, by rfl⟩, fun finds => ?_⟩
  obtain ⟨href, document, -, loaded⟩ :=
    finds [("d/b.json", .null)] "./b.json" (some (parse "d/a.json")) ⟨_, List.mem_singleton_self _, same⟩
  cases missing.symm.trans loaded

end Bundle

end SchemaTypes
