import Mathlib.Data.List.Induction
import SchemaTypes.Location.Basic
import SchemaTypes.Proofs.UrlParts

/-! Which locations are URLs and which are paths. A text is a URL when it has a scheme, `://` and an
authority, and a URL with a host is read from it. What a chain of references leads to keeps to that, but
for references that a URL does not read within itself, and for texts with the form that are refused. -/
namespace SchemaTypes

namespace FilePath

/-! ## Directories -/

theorem trimIdle_cases (reversed : List Char) : trimIdle reversed = reversed ∨
    trimIdle reversed = [] ∨ ∃ front, reversed = front ++ '/' :: trimIdle reversed := by
  fun_induction trimIdle reversed with
  | case1 => exact .inl rfl
  | case2 rest ih =>
    rcases ih with same | gone | ⟨front, split⟩
    · exact .inr (.inr ⟨[], by rw [same, List.nil_append]⟩)
    · exact .inr (.inl gone)
    · exact .inr (.inr ⟨'/' :: front, by rw [List.cons_append, ← split]⟩)
  | case3 rest ih =>
    rcases ih with same | gone | ⟨front, split⟩
    · exact .inr (.inr ⟨['.'], by rw [same, List.singleton_append]⟩)
    · exact .inr (.inl gone)
    · exact .inr (.inr ⟨'.' :: '/' :: front, by rw [List.cons_append, List.cons_append, ← split]⟩)
  | case4 => exact .inr (.inl rfl)
  | case5 => exact .inl rfl

theorem trimIdle_head (reversed : List Char) : (trimIdle reversed).head? ≠ some '/' := by
  fun_induction trimIdle reversed with
  | case1 => simp
  | case2 rest ih => exact ih
  | case3 rest ih => exact ih
  | case4 => simp
  | case5 rest _ slashless =>
    intro first
    obtain ⟨tail, same⟩ := List.head?_eq_some_iff.mp first
    exact slashless tail same

theorem dropPiece_cases (reversed : List Char) :
    dropPiece reversed = [] ∨ ∃ piece, reversed = piece ++ '/' :: dropPiece reversed := by
  unfold dropPiece
  cases left : reversed.dropWhile (!isSlash ·) with
  | nil => exact .inl rfl
  | cons c rest =>
    have slash := List.head?_dropWhile_not (!isSlash ·) reversed
    rw [left] at slash
    have split := List.takeWhile_append_dropWhile (p := (!isSlash ·)) (l := reversed)
    rw [left, show c = '/' by simpa [isSlash] using slash] at split
    exact .inr ⟨_, split.symm⟩

/-- Going up from a reversed text leaves nothing, or what stands behind a slash. -/
theorem up_cases (reversed : List Char) : trimIdle (dropPiece (trimIdle reversed)) = [] ∨
    ∃ front, reversed = front ++ '/' :: trimIdle (dropPiece (trimIdle reversed)) := by
  have trimmed : trimIdle reversed = [] ∨ ∃ front, reversed = front ++ trimIdle reversed := by
    rcases trimIdle_cases reversed with same | gone | ⟨front, split⟩
    · exact .inr ⟨[], by rw [same, List.nil_append]⟩
    · exact .inl gone
    · exact .inr ⟨front ++ ['/'], by rw [List.append_assoc, List.singleton_append, ← split]⟩
  rcases trimmed with gone | ⟨idle, trimmed⟩
  · rw [gone]
    exact .inl rfl
  rcases dropPiece_cases (trimIdle reversed) with gone | ⟨piece, dropped⟩
  · rw [gone]
    exact .inl rfl
  rw [dropped] at trimmed
  rcases trimIdle_cases (dropPiece (trimIdle reversed)) with same | gone | ⟨front, split⟩
  · rw [same]
    exact .inr ⟨idle ++ piece, by rw [List.append_assoc, ← trimmed]⟩
  · exact .inl gone
  · refine .inr ⟨idle ++ piece ++ '/' :: front, ?_⟩
    rw [List.append_assoc, List.append_assoc, List.cons_append, ← split, ← trimmed]

theorem anchored_head {text : List Char} (anchored : (isAbsoluteText text || startsHere text) = true) :
    ∃ c rest, text = c :: rest ∧ Url.isLetter c = false := by
  cases text with
  | nil => cases anchored
  | cons c rest =>
    refine ⟨c, rest, rfl, ?_⟩
    rcases Bool.or_eq_true_iff.mp anchored with absolute | here
    · have slash : c = '/' := by simpa [isAbsoluteText, isSlash] using absolute
      rw [slash]
      decide
    · unfold startsHere at here
      split at here
      · next same =>
        cases same
        decide
      · next same =>
        cases same
        decide
      · cases here

/-- The directory of a path is empty, starts with what the path starts with and is no letter, or is what
stands in front of a slash. -/
theorem parent?_cases {path dir : String} (up : parent? path = some dir) :
    dir = "" ∨ (∃ c rest, dir.toList = c :: rest ∧ Url.isLetter c = false) ∨
      ∃ more, path.toList = dir.toList ++ '/' :: more ∧ dir.toList.getLast? ≠ some '/' := by
  unfold parent? at up
  extract_lets text fixed at up
  split at up
  · split at up
    · cases up
      exact .inl rfl
    · cases up
  · cases up
    rw [String.toList_ofList]
    cases anchored : isAbsoluteText text || startsHere text with
    | true =>
      have first : fixed = 1 := if_pos anchored
      obtain ⟨c, rest, same, other⟩ := anchored_head anchored
      rw [first, same]
      exact .inr (.inl ⟨c, _, rfl, other⟩)
    | false =>
      have none : fixed = 0 := if_neg (by simp [anchored])
      rw [none, List.drop_zero, List.take_zero, List.nil_append]
      rcases up_cases text.reverse with gone | ⟨front, split⟩
      · rw [gone]
        exact .inl rfl
      · refine .inr (.inr ⟨front.reverse, ?_, ?_⟩)
        · have parts := congrArg List.reverse split
          rwa [List.reverse_reverse, List.reverse_append, List.reverse_cons, List.append_assoc,
            List.singleton_append] at parts
        · rw [List.getLast?_reverse]
          exact trimIdle_head _

/-- What a path is joined to starts the joined path, and a slash stands between them when there is none
yet. -/
theorem join_cases (dir : String) {path : String} (relative : isAbsolute path = false) :
    (join dir path).toList = dir.toList ++ '/' :: path.toList ∨
      (join dir path).toList = dir.toList ++ path.toList ∧
        (dir = "" ∨ dir.toList.getLast? = some '/') := by
  unfold join
  rw [relative]
  split
  · next absolute => cases absolute
  · split
    · next ended =>
      refine .inr ⟨String.toList_append .., ?_⟩
      rcases List.eq_nil_or_concat dir.toList with none | ⟨front, c, text⟩
      · exact .inl (String.toList_eq_nil_iff.mp none)
      · right
        rw [text] at ended ⊢
        have filled : dir.isEmpty = false := by
          rw [String.isEmpty_eq_false_iff, ne_eq, ← String.toList_eq_nil_iff, text]
          simp
        simpa [filled, isSlash] using ended
    · left
      simp

end FilePath

namespace Location

open Url FilePath

/-- A scheme, `://`, and an authority, which is not empty and goes on to the next slash, question mark or
hash. -/
structure Form (text scheme authority : List Char) : Prop where
  named : IsScheme scheme
  filled : authority ≠ []
  within : ∀ c ∈ authority, endsAuthority .other c = false
  parts : ∃ rest, text = scheme ++ ':' :: '/' :: '/' :: authority ++ rest ∧
    ∀ c ∈ rest.head?, endsAuthority .other c = true

def HasForm (text : String) : Prop := ∃ scheme authority, Form text.toList scheme authority

/-- A URL with a host is read from the text. -/
def ReadsWithHost (text : String) : Prop := ∃ url, Url.read text = some url ∧ url.Hosted

/-- Where references lead that are followed one after another, each in the document of the one before. -/
def follow (first : String) (references : List String) : Location :=
  references.foldl (fun base reference => resolve reference (some base)) (parse first)

/-- Along the way a URL without a host has been joined from one with a host, by a reference that is not
read within it. -/
def Strays (first : String) (references : List String) : Prop :=
  ∃ before reference after base url, references = before ++ reference :: after ∧
    follow first before = .url base ∧ base.Hosted ∧ ¬ base.Within reference ∧
    follow first (before ++ [reference]) = .url url ∧ ¬ url.Hosted

/-! ## The form of a text -/

theorem hasForm_of_opens {text : String} {scheme body : List Char} (named : IsScheme scheme)
    (filled : body ≠ []) (opens : Opens body)
    (parts : text.toList = scheme ++ ':' :: '/' :: '/' :: body) : HasForm text := by
  refine ⟨scheme, body.takeWhile (!endsAuthority .other ·), named, ?_, ?_,
    body.dropWhile (!endsAuthority .other ·), ?_, ?_⟩
  · cases body with
    | nil => exact (filled rfl).elim
    | cons c body =>
      have first : endsAuthority .other c = false := opens c rfl
      simp [first]
  · intro c member
    simpa using List.mem_takeWhile_imp member
  · simp only [List.append_assoc, List.cons_append, List.takeWhile_append_dropWhile]
    exact parts
  · intro c first
    have stop := List.head?_dropWhile_not (!endsAuthority .other ·) body
    rw [first] at stop
    simpa using stop

theorem splitMark_append {before : List Char} (plain : ∀ c ∈ before, c ≠ ':') (after : List Char) :
    splitMark (before ++ ':' :: '/' :: '/' :: after) = some (before, after) := by
  induction before with
  | nil => rfl
  | cons c before ih =>
    obtain ⟨first, rest⟩ := List.forall_mem_cons.mp plain
    rw [List.cons_append, splitMark.eq_2 _ _ fun _ colon => absurd colon first, ih rest]
    rfl

theorem splitMark_eq {text before after : List Char} (split : splitMark text = some (before, after)) :
    text = before ++ ':' :: '/' :: '/' :: after := by
  fun_induction splitMark text generalizing before with
  | case1 rest =>
    cases split
    rfl
  | case2 c rest other ih =>
    obtain ⟨⟨first, last⟩, found, same⟩ := Option.map_eq_some_iff.mp split
    cases same
    rw [ih found]
    rfl
  | case3 => cases split

theorem isScheme_iff (scheme : List Char) :
    IsScheme scheme ↔ (scheme.head?.any isLetter && scheme.all isSchemeChar) = true := by
  rw [Bool.and_eq_true, List.all_eq_true]
  constructor
  · rintro ⟨⟨first, rest, rfl, letter⟩, chars⟩
    exact ⟨letter, chars⟩
  · rintro ⟨letter, chars⟩
    cases scheme with
    | nil => cases letter
    | cons first rest => exact ⟨⟨first, rest, rfl, letter⟩, chars⟩

theorem endsAuthority_other (c : Char) : (c != '/' && !endsPath c) = !endsAuthority .other c := by
  simp [endsAuthority, isSeparator, Kind.isSpecial, bne, Bool.not_or]

theorem takeWhile_ne_nil_iff (body : List Char) :
    body.takeWhile (!endsAuthority .other ·) ≠ [] ↔ body ≠ [] ∧ Opens body := by
  cases body with
  | nil => simp
  | cons c body =>
    cases stops : endsAuthority .other c with
    | true => simp [Opens, stops]
    | false => simp [Opens, stops]

theorem Form.ne_colon {text scheme authority : List Char} (form : Form text scheme authority) :
    ∀ c ∈ scheme, c ≠ ':' := by
  rintro c member rfl
  exact absurd (form.named.chars ':' member) (by decide)

/-- The check on a text, before it is read as a URL, is on its form. -/
theorem hasAuthority_iff (text : String) : hasAuthority text = true ↔ HasForm text := by
  unfold hasAuthority
  simp only [endsAuthority_other]
  constructor
  · intro checked
    split at checked
    · cases checked
    · next scheme body split =>
      obtain ⟨named, filled⟩ := Bool.and_eq_true_iff.mp checked
      obtain ⟨filled, opens⟩ := (takeWhile_ne_nil_iff body).mp (by simpa using filled)
      exact hasForm_of_opens ((isScheme_iff scheme).mpr named) filled opens (splitMark_eq split)
  · rintro ⟨scheme, authority, form⟩
    obtain ⟨rest, parts, -⟩ := form.parts
    have opens : Opens authority := .of_forall form.within
    have taken := (takeWhile_ne_nil_iff (authority ++ rest)).mpr
      ⟨by simp [form.filled], opens.append form.filled⟩
    simp only [parts, List.append_assoc, List.cons_append, splitMark_append form.ne_colon]
    apply Bool.and_eq_true_iff.mpr
    exact ⟨(isScheme_iff scheme).mp form.named, by simpa using taken⟩

/-- A URL with a host has it behind its scheme when it is written. -/
theorem hasForm_of_hosted {url : Url} (legible : url.Legible) (hosted : url.Hosted) :
    HasForm url.text := by
  obtain ⟨host, given, filled⟩ := hosted
  have opens (tail : List Char) : Opens (host ++ tail) := (legible.host host given).append filled
  let userinfo := if url.userinfo.isEmpty then [] else url.userinfo ++ ['@']
  obtain ⟨tail, parts⟩ : ∃ tail, url.text.toList =
      url.scheme ++ ':' :: '/' :: '/' :: (userinfo ++ (host ++ tail)) := by
    simp only [Url.text, chars, authorityChars, given, String.toList_ofList, List.append_assoc,
      List.cons_append]
    exact ⟨_, rfl⟩
  refine hasForm_of_opens legible.scheme (by simp [filled]) ?_ parts
  simp only [userinfo]
  split
  · exact opens tail
  · next absent =>
    have present : url.userinfo ≠ [] := by simpa using absent
    exact (legible.userinfo.append present).append (by simp)

/-! ## Reading a text on its own -/

theorem hosted_iff (url : Url) : url.host.any (!·.isEmpty) = true ↔ url.Hosted := by
  cases given : url.host with
  | none => simp [Hosted, given]
  | some host => simp [Hosted, given]

theorem parse_cases (text : String) :
    (∃ url, parse text = .url url ∧ HasForm text ∧ Url.read text = some url ∧ url.Hosted) ∨
      parse text = .path text ∧ ¬ (HasForm text ∧ ReadsWithHost text) := by
  unfold parse
  split
  · next checked =>
    have form := (hasAuthority_iff text).mp checked
    split
    · next url read =>
      split
      · next present => exact .inl ⟨url, rfl, form, read, (hosted_iff url).mp present⟩
      · next absent =>
        refine .inr ⟨rfl, ?_⟩
        rintro ⟨-, other, given, hosted⟩
        cases read.symm.trans given
        exact absent ((hosted_iff url).mpr hosted)
    · next refused =>
      refine .inr ⟨rfl, ?_⟩
      rintro ⟨-, url, given, -⟩
      cases refused.symm.trans given
  · next formless =>
    refine .inr ⟨rfl, ?_⟩
    rintro ⟨form, -⟩
    exact formless ((hasAuthority_iff text).mpr form)

/-! ## References -/

/-- What a reference comes to, as seen from a location or from nothing: a URL by itself, a URL joined to
one, or a path, as it is or from the directory of another. -/
inductive Resolves (reference : String) : Option Location → Location → Prop
  | itself {base : Option Location} {url : Url} (parsed : parse reference = .url url) :
      Resolves reference base (.url url)
  | joined {base url : Url} (joined : base.join reference = some url) :
      Resolves reference (some (.url base)) (.url url)
  | kept {base : Option Location} (refused : ¬ (HasForm reference ∧ ReadsWithHost reference)) :
      Resolves reference base (.path reference)
  | below {base dir : String} (refused : ¬ (HasForm reference ∧ ReadsWithHost reference))
      (relative : isAbsolute reference = false) (up : parent? base = some dir) :
      Resolves reference (some (.path base)) (.path (FilePath.join dir reference))

theorem resolve_resolves (reference : String) (base : Option Location) :
    Resolves reference base (resolve reference base) := by
  unfold resolve
  rcases parse_cases reference with ⟨url, same, -⟩ | ⟨same, refused⟩
  · rw [same]
    exact .itself same
  · rw [same]
    match base with
    | none => exact .kept refused
    | some (.url base) =>
      dsimp only
      split
      · next joined => exact .joined joined
      · exact .kept refused
    | some (.path base) =>
      dsimp only
      split
      · exact .kept refused
      · next relative =>
        split
        · next up => exact .below refused ((Bool.not_eq_true _).mp relative) up
        · exact .kept refused

/-- What is a URL by itself is one wherever it is seen from. -/
theorem resolve_parsed {reference : String} {url : Url} (parsed : parse reference = .url url)
    (base : Option Location) : resolve reference base = .url url := by
  unfold resolve
  rw [parsed]

/-- A text without the form, seen from no URL, is a path. -/
theorem resolve_formless {reference : String} {base : Option Location}
    (other : ∀ url, base ≠ some (.url url)) (formless : ¬ HasForm reference) :
    ∃ path, resolve reference base = .path path := by
  have resolved := resolve_resolves reference base
  generalize resolve reference base = location at resolved ⊢
  cases resolved with
  | itself parsed =>
    rcases parse_cases reference with ⟨url, -, form, -⟩ | ⟨same, -⟩
    · exact (formless form).elim
    · cases same.symm.trans parsed
  | joined => exact (other _ rfl).elim
  | kept => exact ⟨_, rfl⟩
  | below => exact ⟨_, rfl⟩

/-! ## Joined paths -/

theorem Form.slash_not_mem {text scheme authority : List Char} (form : Form text scheme authority) :
    '/' ∉ scheme ∧ '/' ∉ authority :=
  ⟨fun member => absurd (form.named.chars _ member) (by decide),
    fun member => absurd (form.within _ member) (by decide)⟩

/-- The slashes of a scheme, a mark and an authority are those of the mark. -/
theorem slash_cases {scheme authority front rest : List Char} (inScheme : '/' ∉ scheme)
    (inAuthority : '/' ∉ authority)
    (split : scheme ++ ':' :: '/' :: '/' :: authority = front ++ '/' :: rest) :
    rest = '/' :: authority ∨ front = scheme ++ [':', '/'] := by
  induction scheme generalizing front with
  | nil =>
    match front with
    | [] => cases split
    | [_] =>
      cases split
      exact .inl rfl
    | [_, _] =>
      cases split
      exact .inr rfl
    | _ :: _ :: _ :: front =>
      cases split
      simp at inAuthority
  | cons c scheme ih =>
    cases front with
    | nil =>
      cases split
      simp at inScheme
    | cons d front =>
      obtain ⟨rfl, behind⟩ := List.cons_eq_cons.mp split
      rcases ih (fun member => inScheme (List.mem_cons_of_mem _ member)) behind with same | same
      · exact .inl same
      · exact .inr (congrArg (c :: ·) same)

theorem Form.first {c : Char} {rest scheme authority : List Char}
    (form : Form (c :: rest) scheme authority) : isLetter c = true := by
  obtain ⟨first, behind, rfl, letter⟩ := form.named.letter
  obtain ⟨tail, parts, -⟩ := form.parts
  cases parts
  exact letter

/-- Where a slash stands between two texts that do not put a second one beside it, it is not in the mark
behind the scheme: what stands in front of it has the form by itself. -/
theorem Form.of_front {front behind scheme authority : List Char}
    (form : Form (front ++ '/' :: behind) scheme authority) (unended : front.getLast? ≠ some '/')
    (unstarted : behind.head? ≠ some '/') (more : List Char) :
    Form (front ++ '/' :: more) scheme authority := by
  obtain ⟨inScheme, inAuthority⟩ := form.slash_not_mem
  obtain ⟨rest, parts, stops⟩ := form.parts
  suffices continued : ∃ left, front = scheme ++ ':' :: '/' :: '/' :: authority ++ left ∧
      ∀ c ∈ left.head?.or (some '/'), endsAuthority .other c = true by
    obtain ⟨left, rfl, stops⟩ := continued
    refine ⟨form.named, form.filled, form.within, left ++ '/' :: more, ?_, ?_⟩
    · rw [List.append_assoc]
    · rw [List.head?_append]
      exact stops
  rcases List.append_eq_append_iff.mp parts with ⟨left, whole, tail⟩ | ⟨left, whole, tail⟩
  · cases left with
    | nil =>
      rw [List.append_nil] at whole
      refine ⟨[], by rw [whole, List.append_nil], ?_⟩
      simp [endsAuthority_iff]
    | cons slash left =>
      exfalso
      obtain ⟨rfl, behindSplit⟩ := List.cons_eq_cons.mp tail
      rcases slash_cases inScheme inAuthority whole with rfl | rfl
      · exact unstarted (by simp [behindSplit])
      · exact unended (by simp)
  · rw [tail, List.head?_append] at stops
    exact ⟨left, whole, stops⟩

/-- What a joined path starts with is taken from the directory, or the directory is empty. -/
theorem Form.of_join {base dir reference : String} {scheme authority : List Char}
    (up : parent? base = some dir) (relative : isAbsolute reference = false)
    (form : Form (FilePath.join dir reference).toList scheme authority) :
    Form base.toList scheme authority ∨ Form reference.toList scheme authority := by
  have split := join_cases dir relative
  rcases parent?_cases up with rfl | ⟨c, rest, starts, other⟩ | ⟨more, whole, unended⟩
  · right
    simpa [FilePath.join, relative] using form
  · exfalso
    have first (behind : List Char) (form : Form (dir.toList ++ behind) scheme authority) : False := by
      rw [starts] at form
      exact Bool.false_ne_true (other.symm.trans form.first)
    rcases split with split | ⟨split, -⟩
    · exact first _ (split ▸ form)
    · exact first _ (split ▸ form)
  · rcases split with split | ⟨split, rfl | ended⟩
    · left
      rw [whole]
      have unstarted : reference.toList.head? ≠ some '/' := by
        intro slash
        obtain ⟨tail, same⟩ := List.head?_eq_some_iff.mp slash
        rw [isAbsolute, same] at relative
        cases relative
      exact (split ▸ form).of_front unended unstarted more
    · right
      rw [split] at form
      exact form
    · exact (unended ended).elim

/-! ## Chains of references -/

theorem follow_concat (first : String) (before : List String) (reference : String) :
    follow first (before ++ [reference]) = resolve reference (some (follow first before)) := by
  simp [follow]

theorem follow_step {first : String} {before : List String} {reference : String}
    {location : Location} (reached : follow first (before ++ [reference]) = location) :
    Resolves reference (some (follow first before)) location := by
  rw [← reached, follow_concat]
  exact resolve_resolves reference _

theorem Strays.concat {first : String} {before : List String} (strays : Strays first before)
    (reference : String) : Strays first (before ++ [reference]) := by
  obtain ⟨front, stray, after, base, url, rfl, behind⟩ := strays
  exact ⟨front, stray, after ++ [reference], base, url, by simp, behind⟩

theorem parse_url {text : String} {url : Url} (parsed : parse text = .url url) :
    url.Legible ∧ url.Hosted := by
  rcases parse_cases text with ⟨other, same, -, read, hosted⟩ | ⟨same, -⟩
  · cases same.symm.trans parsed
    exact ⟨readFrom_legible (by simp) read, hosted⟩
  · cases same.symm.trans parsed

/-- Every URL on the way is legible, and it has a host as long as no reference strays. -/
theorem follow_url {first : String} {references : List String} {url : Url}
    (reached : follow first references = .url url) :
    url.Legible ∧ (url.Hosted ∨ Strays first references) := by
  induction references using List.reverseRecOn generalizing url with
  | nil =>
    obtain ⟨legible, hosted⟩ := parse_url reached
    exact ⟨legible, .inl hosted⟩
  | append_singleton before reference ih =>
    have step := follow_step reached
    generalize based : follow first before = base at step
    cases step with
    | itself parsed =>
      obtain ⟨legible, hosted⟩ := parse_url parsed
      exact ⟨legible, .inl hosted⟩
    | @joined base _ joined =>
      obtain ⟨legible, stands⟩ := ih based
      refine ⟨readFrom_legible (by simpa using legible) joined, ?_⟩
      rcases stands with hosted | strays
      · by_cases lost : url.Hosted
        · exact .inl lost
        · right
          refine ⟨before, reference, [], base, url, rfl, based, hosted, fun within => ?_, reached, lost⟩
          exact lost (hosted.join within joined)
      · exact .inr (strays.concat reference)

/-- A path on the way that has the form has it from one of the texts, and no URL with a host is read from
that text. -/
theorem follow_path {first : String} {references : List String} {path : String}
    {scheme authority : List Char} (reached : follow first references = .path path)
    (form : Form path.toList scheme authority) :
    ∃ text ∈ first :: references, Form text.toList scheme authority ∧ ¬ ReadsWithHost text := by
  induction references using List.reverseRecOn generalizing path with
  | nil =>
    rcases parse_cases first with ⟨url, same, -⟩ | ⟨same, refused⟩
    · cases same.symm.trans reached
    · cases same.symm.trans reached
      exact ⟨first, List.mem_cons_self, form, fun reads => refused ⟨⟨_, _, form⟩, reads⟩⟩
  | append_singleton before reference ih =>
    have last (refused : ¬ (HasForm reference ∧ ReadsWithHost reference))
        (form : Form reference.toList scheme authority) : ∃ text ∈ first :: (before ++ [reference]),
          Form text.toList scheme authority ∧ ¬ ReadsWithHost text :=
      ⟨reference, by simp, form, fun reads => refused ⟨⟨_, _, form⟩, reads⟩⟩
    have step := follow_step reached
    generalize based : follow first before = base at step
    cases step with
    | kept refused => exact last refused form
    | below refused relative up =>
      rcases form.of_join up relative with form | form
      · obtain ⟨text, member, found⟩ := ih based form
        refine ⟨text, ?_, found⟩
        rw [← List.cons_append]
        exact List.mem_append_left _ member
      · exact last refused form

/-- A text is a URL exactly if it has the form and a URL with a host is read from it; such a reference is
one wherever it is seen from. Along a chain of references a URL has the form, unless one without a host
was joined on the way, and always if its scheme is one of the web. A path has the form only where a text of
the chain has the same scheme and authority and no URL with a host is read from it. A reference without
the form is a path, as seen from a path or from nothing. -/
theorem form_decides (first : String) (references : List String) :
    ((∃ url, parse first = .url url) ↔ HasForm first ∧ ReadsWithHost first) ∧
    (∀ url, follow first references = .url url →
      HasForm url.text ∨ kindOf url.scheme ≠ .web ∧ Strays first references) ∧
    (∀ path scheme authority, follow first references = .path path →
      Form path.toList scheme authority →
        ∃ text ∈ first :: references, Form text.toList scheme authority ∧ ¬ ReadsWithHost text) ∧
    (∀ reference base, HasForm reference → ReadsWithHost reference →
      ∃ url, resolve reference base = .url url) ∧
    ∀ reference base, (∀ url, base ≠ some (.url url)) → ¬ HasForm reference →
      ∃ path, resolve reference base = .path path := by
  have formed (text : String) (form : HasForm text) (reads : ReadsWithHost text) :
      ∃ url, parse text = .url url := by
    rcases parse_cases text with ⟨url, parsed, -⟩ | ⟨-, refused⟩
    · exact ⟨url, parsed⟩
    · exact (refused ⟨form, reads⟩).elim
  refine ⟨⟨?_, ?_⟩, ?_, ?_, ?_, ?_⟩
  · rintro ⟨url, parsed⟩
    rcases parse_cases first with ⟨url, -, form, read, hosted⟩ | ⟨same, -⟩
    · exact ⟨form, url, read, hosted⟩
    · cases same.symm.trans parsed
  · rintro ⟨form, reads⟩
    exact formed first form reads
  · intro url reached
    obtain ⟨legible, stands⟩ := follow_url reached
    by_cases hosted : url.Hosted
    · exact .inl (hasForm_of_hosted legible hosted)
    · exact .inr ⟨fun web => hosted (legible.web web), stands.resolve_left hosted⟩
  · intro path scheme authority reached form
    exact follow_path reached form
  · intro reference base form reads
    obtain ⟨url, parsed⟩ := formed reference form reads
    exact ⟨url, resolve_parsed parsed base⟩
  · intro reference base other formless
    exact resolve_formless other formless

/-- The form alone does not decide: a text that has it can be a path, and a reference that lacks it can
be a URL as seen from one. -/
theorem form_undecided :
    (HasForm "http://[/" ∧ parse "http://[/" = .path "http://[/") ∧
    (∃ url, follow "foo://h/a" ["file:///x.json"] = .url url ∧ ¬ HasForm url.text) ∧
    ¬ ∀ first references, (∃ url, follow first references = .url url) ↔
      HasForm (follow first references).text := by
  have form : HasForm "http://[/" := (hasAuthority_iff _).mp (by decide)
  have path : parse "http://[/" = .path "http://[/" := by rfl
  refine ⟨⟨form, path⟩, ?_, ?_⟩
  · refine ⟨⟨"file".toList, [], some [], none, .segments ["x.json".toList], none, none⟩, by rfl, ?_⟩
    rw [← hasAuthority_iff]
    decide
  · intro decided
    obtain ⟨url, parsed⟩ := (decided "http://[/" []).mpr form
    cases path.symm.trans parsed

end Location

end SchemaTypes
