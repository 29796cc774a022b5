import Mathlib.Data.List.TakeWhile
import Mathlib.Data.Nat.Digits.Defs
import SchemaTypes.Location.Url

/-! The parts of a URL that has been read: which characters its scheme consists of, that neither a user
nor a host starts with what ends an authority, and when there is a host. Reading goes through many
forms of references; whatever it takes of the base, and whatever it reads anew, these facts stand. -/
namespace SchemaTypes

namespace Url

/-- Text that does not start with what ends an authority. -/
def Opens (text : List Char) : Prop := ∀ c ∈ text.head?, endsAuthority .other c = false

/-- A letter, and letters, digits and the marks of schemes behind it. -/
structure IsScheme (scheme : List Char) : Prop where
  letter : ∃ first rest, scheme = first :: rest ∧ isLetter first = true
  chars : ∀ c ∈ scheme, isSchemeChar c = true

/-- There is a host, and it is not empty. -/
def Hosted (url : Url) : Prop := ∃ host, url.host = some host ∧ host ≠ []

/-- What the written form of a URL needs to show its scheme and, where there is one, its host. -/
structure Legible (url : Url) : Prop where
  scheme : IsScheme url.scheme
  userinfo : Opens url.userinfo
  host : ∀ host, url.host = some host → Opens host
  web : kindOf url.scheme = .web → url.Hosted

/-! ## What ends an authority -/

theorem endsAuthority_iff {c : Char} :
    endsAuthority .other c = true ↔ c = '/' ∨ c = '?' ∨ c = '#' := by
  simp [endsAuthority, isSeparator, Kind.isSpecial, endsPath]

/-- What is not among some characters that include the ends of an authority is no such end. -/
theorem not_ends (among : Char → Bool)
    (ends : among '/' = true ∧ among '?' = true ∧ among '#' = true) {c : Char}
    (other : among c = false) : endsAuthority .other c = false := by
  obtain ⟨slash, question, hash⟩ := ends
  cases stops : endsAuthority .other c with
  | false => rfl
  | true =>
    rcases endsAuthority_iff.mp stops with rfl | rfl | rfl
    · exact slash.symm.trans other
    · exact question.symm.trans other
    · exact hash.symm.trans other

namespace Opens

variable {text rest : List Char}

theorem nil : Opens [] := by simp [Opens]

theorem cons {c : Char} (other : endsAuthority .other c = false) : Opens (c :: rest) := by
  simpa [Opens] using other

theorem of_forall (others : ∀ c ∈ text, endsAuthority .other c = false) : Opens text :=
  fun c first => others c (List.mem_of_mem_head? first)

theorem append (opens : Opens text) (filled : text ≠ []) : Opens (text ++ rest) := by
  cases text with
  | nil => exact (filled rfl).elim
  | cons c text => exact cons (opens c rfl)

theorem join {pieces : List (List Char)} (each : ∀ piece ∈ pieces, Opens piece) :
    Opens (Text.join '.' pieces) := by
  match pieces with
  | [] => exact nil
  | [piece] => exact each piece List.mem_cons_self
  | [] :: second :: rest => exact cons (by decide)
  | (c :: piece) :: second :: rest =>
    have first := each (c :: piece) List.mem_cons_self
    exact cons (first c rfl)

end Opens

end Url

open Url

namespace Percent

theorem mem_encode {encoded : Char → Bool} {text : List Char} {c : Char}
    (member : c ∈ encode encoded text) :
    c ∈ text ∧ encoded c = false ∨ ∃ b, c ∈ encodeByte b := by
  obtain ⟨d, inside, written⟩ := List.mem_flatMap.mp member
  unfold encodeChar at written
  split at written
  · obtain ⟨b, -, byte⟩ := List.mem_flatMap.mp written
    exact .inr ⟨b, byte⟩
  · next plain =>
    rw [List.mem_singleton.mp written]
    exact .inl ⟨inside, (Bool.not_eq_true _).mp plain⟩

theorem not_ends_of_byte {b : UInt8} {c : Char} (member : c ∈ encodeByte b) :
    endsAuthority .other c = false := by
  have digit : ∀ n < 16, endsAuthority .other (hexDigit n) = false := by decide
  have bound := b.toNat_lt
  simp only [encodeByte, List.mem_cons, List.not_mem_nil, or_false] at member
  rcases member with rfl | rfl | rfl
  · decide
  · exact digit _ (by omega)
  · exact digit _ (by omega)

end Percent

/-! ## Hosts -/

theorem Domain.Label.opens_ascii {text : List Char} {label : Label} (read : ofText? text = some label) :
    Opens label.ascii := by
  have marked (rest : List Char) : Opens (marker ++ rest) := .cons (by decide)
  unfold ofText? at read
  split at read
  · split at read
    · unfold ofPunycode? at read
      split at read
      · cases read
      · obtain ⟨decoded, -, read⟩ := Option.bind_eq_some_iff.mp read
        split at read
        · cases read
          exact marked _
        · cases read
    · cases read
  · split at read
    · split at read
      · cases read
      · next allowed =>
        cases read
        refine .of_forall fun c inside => not_ends isForbidden (by decide) ?_
        exact (Bool.not_eq_true _).mp fun forbidden =>
          allowed (List.any_eq_true.mpr ⟨c, inside, forbidden⟩)
    · split at read
      · cases read
        exact marked _
      · cases read

theorem exists_of_mapM {α β : Type} {f : α → Option β} {list : List α} {results : List β}
    (mapped : list.mapM f = some results) : ∀ result ∈ results, ∃ x ∈ list, f x = some result := by
  induction list generalizing results with
  | nil =>
    cases mapped
    exact List.forall_mem_nil _
  | cons x rest ih =>
    rw [List.mapM_cons] at mapped
    obtain ⟨first, given, mapped⟩ := Option.bind_eq_some_iff.mp mapped
    obtain ⟨others, each, mapped⟩ := Option.bind_eq_some_iff.mp mapped
    cases mapped
    refine List.forall_mem_cons.mpr ⟨⟨x, List.mem_cons_self, given⟩, fun result member => ?_⟩
    obtain ⟨y, inside, same⟩ := ih each result member
    exact ⟨y, List.mem_cons_of_mem _ inside, same⟩

theorem Domain.opens_toAscii {name host : List Char} (read : toAscii name = some host) :
    Opens host := by
  obtain ⟨labels, listed, rfl⟩ := Option.map_eq_some_iff.mp read
  unfold labels? at listed
  obtain ⟨folded, -, listed⟩ := Option.bind_eq_some_iff.mp listed
  obtain ⟨split, mapped, listed⟩ := Option.bind_eq_some_iff.mp listed
  split at listed
  · cases listed
  · cases listed
    refine .join fun piece member => ?_
    obtain ⟨label, inside, rfl⟩ := List.mem_map.mp member
    obtain ⟨text, -, labelled⟩ := exists_of_mapM mapped label inside
    exact Label.opens_ascii labelled

namespace Host

theorem not_ends_of_decimal {n : Nat} : ∀ c ∈ decimal n, endsAuthority .other c = false := by
  intro c member
  have digit : c.isDigit = true := Nat.isDigit_of_mem_toDigits (by decide) (by decide) member
  refine not_ends (fun c => !c.isDigit) (by decide) ?_
  rw [digit, Bool.not_true]

theorem opens_address4Text (n : Nat) : Opens (address4Text n) ∧ address4Text n ≠ [] := by
  constructor
  · refine .join fun piece member => ?_
    obtain ⟨byte, -, rfl⟩ := List.mem_map.mp member
    exact .of_forall not_ends_of_decimal
  · simp [address4Text, Text.join]

theorem opens_bracketed {text host : List Char} (read : bracketed? text = some host) :
    Opens host ∧ host ≠ [] := by
  unfold bracketed? at read
  split at read
  · obtain ⟨groups, -, rfl⟩ := Option.map_eq_some_iff.mp read
    exact ⟨.cons (by decide), List.cons_ne_nil _ _⟩
  · cases read

theorem opens_domain {text host : List Char} (read : domain? text = some host) :
    Opens host ∧ host ≠ [] := by
  unfold domain? at read
  split at read
  · exact opens_bracketed read
  · obtain ⟨decoded, -, read⟩ := Option.bind_eq_some_iff.mp read
    obtain ⟨name, ascii, read⟩ := Option.bind_eq_some_iff.mp read
    split at read
    · cases read
    · next filled =>
      split at read
      · obtain ⟨n, -, rfl⟩ := Option.map_eq_some_iff.mp read
        exact opens_address4Text n
      · cases read
        exact ⟨Domain.opens_toAscii ascii, by simpa using filled⟩

theorem opens_plain {text host : List Char} (read : plain? text = some host) : Opens host := by
  unfold plain? at read
  split at read
  · exact (opens_bracketed read).1
  · split at read
    · cases read
    · next allowed =>
      cases read
      refine .of_forall fun c member => ?_
      rcases Percent.mem_encode member with ⟨inside, -⟩ | ⟨b, byte⟩
      · refine not_ends isForbidden (by decide) ((Bool.not_eq_true _).mp fun forbidden => ?_)
        exact allowed (List.any_eq_true.mpr ⟨c, inside, forbidden⟩)
      · exact Percent.not_ends_of_byte byte

end Host

namespace Url

theorem opens_userinfo (info : List Char) : Opens (encodeUserinfo info) := by
  have encoded (text : List Char) : ∀ c ∈ Percent.encode Percent.userinfo text,
      endsAuthority .other c = false := by
    intro c member
    rcases Percent.mem_encode member with ⟨-, kept⟩ | ⟨b, byte⟩
    · exact not_ends Percent.userinfo (by decide) kept
    · exact Percent.not_ends_of_byte byte
  simp only [encodeUserinfo]
  split
  · exact .of_forall (encoded _)
  · refine .of_forall (List.forall_mem_append.mpr ⟨encoded _, ?_⟩)
    exact List.forall_mem_cons.mpr ⟨by decide, encoded _⟩

/-! ## Schemes -/

theorem toNat_lt_of_schemeChar {c : Char} (scheme : isSchemeChar c = true) : c.toNat < 123 := by
  simp only [isSchemeChar, isLetter, Host.isDigit, Bool.or_eq_true, Bool.and_eq_true, decide_eq_true_eq,
    beq_iff_eq, Char.le_def, UInt32.le_iff_toNat_le] at scheme
  have bounds : ('z'.val.toNat = 122 ∧ 'Z'.val.toNat = 90) ∧ '9'.val.toNat = 57 := by decide
  rcases scheme with ((among | rfl) | rfl) | rfl
  · show c.val.toNat < 123
    omega
  · decide
  · decide
  · decide

/-- There are few enough characters of schemes to try them all. -/
theorem toLower_scheme {c : Char} (scheme : isSchemeChar c = true) :
    isSchemeChar c.toLower = true ∧ isLetter c.toLower = isLetter c := by
  have each : ∀ n < 123, isSchemeChar (Char.ofNat n) = true →
      isSchemeChar (Char.ofNat n).toLower = true ∧
        isLetter (Char.ofNat n).toLower = isLetter (Char.ofNat n) := by decide
  have small := each c.toNat (toNat_lt_of_schemeChar scheme)
  rw [Char.ofNat_toNat] at small
  exact small scheme

theorem isScheme_of_split {input scheme rest : List Char}
    (split : splitScheme input = some (scheme, rest)) : IsScheme scheme := by
  cases input with
  | nil => cases split
  | cons first input =>
    simp only [splitScheme] at split
    split at split
    · next letter =>
      have scheme : isSchemeChar first = true := by simp [isSchemeChar, letter]
      split at split
      · cases split
        constructor
        · rw [List.takeWhile_cons_of_pos scheme]
          exact ⟨_, _, rfl, (toLower_scheme scheme).2.trans letter⟩
        · intro c member
          obtain ⟨d, inside, rfl⟩ := List.mem_map.mp member
          exact (toLower_scheme (List.mem_takeWhile_imp inside)).1
      · cases split
    · cases split

/-! ## Reading -/

/-- The query and the fragment are all that is read behind the path. -/
theorem withQueryAndFragment_eq (url : Url) (input : List Char) : ∃ query fragment,
    withQueryAndFragment url input = { url with query := query, fragment := fragment } := by
  unfold withQueryAndFragment
  extract_lets set fragment
  split
  · split
    · exact ⟨_, _, rfl⟩
    · exact ⟨_, _, rfl⟩
  · exact ⟨_, _, rfl⟩
  · exact ⟨_, _, rfl⟩

theorem withQueryAndFragment_authority (url : Url) (input : List Char) :
    (withQueryAndFragment url input).scheme = url.scheme ∧
      (withQueryAndFragment url input).userinfo = url.userinfo ∧
      (withQueryAndFragment url input).host = url.host := by
  obtain ⟨query, fragment, same⟩ := withQueryAndFragment_eq url input
  rw [same]
  exact ⟨rfl, rfl, rfl⟩

namespace Legible

variable {base : Url}

theorem withParts (legible : Legible base) (path : Path) (query fragment : Option (List Char)) :
    Legible { base with path := path, query := query, fragment := fragment } :=
  ⟨legible.scheme, legible.userinfo, legible.host, legible.web⟩

theorem withQueryAndFragment (legible : Legible base) (input : List Char) :
    Legible (withQueryAndFragment base input) := by
  obtain ⟨query, fragment, same⟩ := withQueryAndFragment_eq base input
  rw [same]
  exact legible.withParts _ _ _

end Legible

/-! ## Authorities -/

theorem opens_userinfo? (info : Option (List Char)) : Opens ((info.map encodeUserinfo).getD []) := by
  cases info with
  | none => exact .nil
  | some info => exact opens_userinfo info

/-- Where an authority is read there is a host, and the schemes with rules of their own want some text
in it. -/
theorem readAuthority_parts {scheme input : List Char} {url : Url}
    (read : readAuthority scheme input = some url) :
    url.scheme = scheme ∧ Opens url.userinfo ∧
      ∃ host, url.host = some host ∧ Opens host ∧ ((kindOf scheme).isSpecial = true → host ≠ []) := by
  unfold readAuthority at read
  extract_lets kind authority at read
  split at read
  next info behind split =>
  extract_lets input userinfo authority host rest withHost checked filled at read
  -- Whatever is read behind the host, port, path, query and fragment, leaves what is in front of it.
  have parts (found : List Char) (finish : withHost found = some url) :
      url.scheme = scheme ∧ url.userinfo = userinfo ∧ url.host = some found := by
    simp only [withHost] at finish
    clear_value rest
    split at finish
    · obtain ⟨⟨port, rest⟩, -, finish⟩ := Option.bind_eq_some_iff.mp finish
      cases finish
      exact withQueryAndFragment_authority _ _
    · cases finish
      exact withQueryAndFragment_authority _ _
  have hosted : ∃ found, Opens found ∧ (kind.isSpecial = true → found ≠ []) ∧
      withHost found = some url := by
    split at read
    · cases read
    simp only [filled] at read
    split at read
    · cases read
    simp only [checked] at read
    split at read
    · obtain ⟨found, domain, finish⟩ := Option.bind_eq_some_iff.mp read
      have host := Host.opens_domain domain
      exact ⟨found, host.1, fun _ => host.2, finish⟩
    · next plain =>
      obtain ⟨found, opaqueHost, finish⟩ := Option.bind_eq_some_iff.mp read
      exact ⟨found, Host.opens_plain opaqueHost, fun special => (plain special).elim, finish⟩
  obtain ⟨found, opens, special, finish⟩ := hosted
  obtain ⟨named, info, host⟩ := parts found finish
  exact ⟨named, info ▸ opens_userinfo? _, found, host, opens, special⟩

theorem Legible.of_authority {scheme input : List Char} {url : Url} (named : IsScheme scheme)
    (read : readAuthority scheme input = some url) : Legible url := by
  obtain ⟨same, userinfo, host, found, opens, special⟩ := readAuthority_parts read
  refine ⟨same ▸ named, userinfo, fun other given => ?_, fun web => ⟨host, found, special ?_⟩⟩
  · cases found.symm.trans given
    exact opens
  · rw [← same, web]
    rfl

/-! ## Files -/

theorem isScheme_file : IsScheme fileScheme :=
  ⟨⟨'f', "ile".toList, rfl, by decide⟩, List.all_eq_true.mp (by decide)⟩

theorem kindOf_file : kindOf fileScheme = .file := rfl

theorem Legible.ofFile {host : List Char} (opens : Opens host) (path : Path) (rest : List Char) :
    Legible (ofFile host path rest) := by
  apply Legible.withQueryAndFragment
  constructor
  · exact isScheme_file
  · exact .nil
  · intro other same
    cases same
    exact opens
  · intro web
    cases kindOf_file.symm.trans web

theorem readFileHost_legible {input : List Char} {url : Url}
    (read : readFileHost input = some url) : Legible url := by
  unfold readFileHost at read
  extract_lets host rest withName at read
  have legible (name : List Char) (opens : Opens name) (finish : withName name = some url) :
      Legible url := by
    simp only [withName] at finish
    split at finish
    · cases finish
      exact .ofFile .nil _ _
    · cases finish
      apply Legible.ofFile
      split
      · exact .nil
      · exact opens
  split at read
  · cases read
    exact .ofFile .nil _ _
  · split at read
    · exact legible [] .nil read
    · obtain ⟨name, domain, finish⟩ := Option.bind_eq_some_iff.mp read
      exact legible name (Host.opens_domain domain).1 finish

section File

variable {base : Option Url} {input : List Char} {url : Url}

theorem opens_host (legible : ∀ b ∈ base, Legible b) : Opens ((base.bind (·.host)).getD []) := by
  cases given : base.bind (·.host) with
  | none => exact .nil
  | some host =>
    obtain ⟨b, member, found⟩ := Option.bind_eq_some_iff.mp given
    exact (legible b member).host host found

theorem readRooted_legible (legible : ∀ b ∈ base, Legible b)
    (read : readFile.readRooted base input = some url) : Legible url := by
  unfold readFile.readRooted at read
  extract_lets inherited drive host at read
  have known : ∀ b ∈ inherited, Legible b := by
    simp only [inherited]
    split
    · simp
    · exact legible
  have opens : Opens host := by
    simp only [host]
    split
    · exact opens_host known
    · exact .nil
  cases read
  exact .ofFile opens _ _

theorem readRelative_legible (legible : ∀ b ∈ base, Legible b)
    (read : readFile.readRelative base input = some url) : Legible url := by
  unfold readFile.readRelative at read
  split at read
  · cases read
    exact .ofFile .nil _ _
  · next base =>
    have kept := legible base rfl
    split at read
    · cases read
      exact kept.withParts _ _ _
    · cases read
      exact kept.withQueryAndFragment _
    · cases read
      exact (kept.withQueryAndFragment _).withParts _ _ _
    · split at read
      · cases read
        exact .ofFile .nil _ _
      · cases read
        exact .ofFile (opens_host legible) _ _

theorem readFile_legible (legible : ∀ b ∈ base, Legible b)
    (read : readFile base input = some url) : Legible url := by
  unfold readFile at read
  split at read
  · split at read
    · exact readFileHost_legible read
    · split at read
      · exact readRooted_legible legible read
      · exact readRelative_legible legible read
  · split at read
    · exact readRooted_legible legible read
    · exact readRelative_legible legible read
  · exact readRelative_legible legible read

end File

/-! ## References -/

theorem readReference_legible {base url : Url} {input : List Char} (legible : Legible base)
    (read : readReference base input = some url) : Legible url := by
  unfold readReference at read
  extract_lets kind isSlash at read
  split at read
  · cases read
    exact legible.withParts _ _ _
  · cases read
    exact legible.withQueryAndFragment _
  · cases read
    exact (legible.withQueryAndFragment _).withParts _ _ _
  · split at read
    · split at read
      · split at read
        · exact .of_authority legible.scheme read
        · exact .of_authority legible.scheme read
      · cases read
        exact (legible.withParts _ _ _).withQueryAndFragment _
    · cases read
      exact (legible.withParts _ _ _).withQueryAndFragment _

theorem readOther_legible {scheme input : List Char} {url : Url} (named : IsScheme scheme)
    (other : kindOf scheme = .other) (read : readOther scheme input = some url) : Legible url := by
  have hostless (path : Path) : Legible ⟨scheme, [], none, none, path, none, none⟩ := by
    constructor
    · exact named
    · exact .nil
    · simp
    · intro web
      cases other.symm.trans web
  unfold readOther at read
  split at read
  · exact .of_authority named read
  · cases read
    exact (hostless _).withQueryAndFragment _
  · cases read
    exact (hostless _).withQueryAndFragment _

/-- Whatever a text is read against, the URL is legible if the base is. -/
theorem readFrom_legible {base : Option Url} {text : String} {url : Url}
    (legible : ∀ b ∈ base, Legible b) (read : readFrom base text = some url) : Legible url := by
  unfold readFrom at read
  extract_lets input at read
  split at read
  · next scheme rest split =>
    have named := isScheme_of_split split
    split at read
    · refine readFile_legible (fun b member => legible b ?_) read
      exact (Option.filter_eq_some_iff.mp member).1
    · next other => exact readOther_legible named other read
    · extract_lets slashes at read
      split at read
      · next base =>
        split at read
        · exact readReference_legible (legible base rfl) read
        · exact .of_authority named read
      · exact .of_authority named read
  · split at read
    · cases read
    · next base =>
      have kept := legible base rfl
      split at read
      · cases read
        exact (kept.withQueryAndFragment _).withParts _ _ _
      · cases read
      · split at read
        · exact readFile_legible legible read
        · exact readReference_legible kept read

/-! ## Hosts that are kept -/

/-- The text starts with two slashes, of whichever kind. -/
def bringsAuthority : List Char → Bool
  | a :: b :: _ => isSeparator .web a && isSeparator .web b
  | _ => false

/-- A reference that is read within what the base names: it brings neither a scheme nor an authority of
its own, and the base is no file. -/
structure Within (base : Url) (reference : String) : Prop where
  kind : kindOf base.scheme ≠ .file
  schemeless : splitScheme (clean reference.toList) = none
  relative : bringsAuthority (clean reference.toList) = false

namespace Hosted

variable {base url : Url}

theorem withParts (hosted : base.Hosted) (path : Path) (query fragment : Option (List Char)) :
    Hosted { base with path := path, query := query, fragment := fragment } := hosted

theorem withQueryAndFragment (hosted : base.Hosted) (input : List Char) :
    Hosted (withQueryAndFragment base input) := by
  obtain ⟨query, fragment, same⟩ := withQueryAndFragment_eq base input
  rw [same]
  exact hosted

theorem readReference (hosted : base.Hosted) {input : List Char}
    (relative : bringsAuthority input = false) (read : readReference base input = some url) :
    url.Hosted := by
  unfold Url.readReference at read
  extract_lets kind isSlash at read
  split at read
  · cases read
    exact hosted
  · cases read
    exact hosted.withQueryAndFragment _
  · cases read
    exact (hosted.withQueryAndFragment _).withParts _ _ _
  · next c rest _ _ _ =>
    split at read
    · next first =>
      split at read
      · next second =>
        exfalso
        cases rest with
        | nil => cases second
        | cons d rest =>
          have both : bringsAuthority (c :: d :: rest) = true := Bool.and_eq_true_iff.mpr ⟨first, second⟩
          cases both.symm.trans relative
      · cases read
        exact (hosted.withParts _ _ _).withQueryAndFragment _
    · cases read
      exact (hosted.withParts _ _ _).withQueryAndFragment _

/-- What is read within a base with a host has that host. -/
theorem join (hosted : base.Hosted) {reference : String} (within : base.Within reference)
    (joined : base.join reference = some url) : url.Hosted := by
  unfold Url.join readFrom at joined
  extract_lets input at joined
  split at joined
  · next scheme =>
    cases scheme.symm.trans within.schemeless
  · split at joined
    · cases joined
    · next same =>
      cases same
      split at joined
      · cases joined
        exact (hosted.withQueryAndFragment input).withParts _ _ _
      · cases joined
      · rw [if_neg within.kind] at joined
        exact hosted.readReference within.relative joined

end Hosted

end SchemaTypes.Url
