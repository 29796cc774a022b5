import SchemaTypes.Location.Host

/-!
URLs: their parts, their written form, and reading one, alone or as seen from a base.

The written form is normal: scheme and domain in lower case, the scheme's own port left out, dot
segments resolved, and characters that a part cannot hold percent-encoded.
-/
namespace SchemaTypes

/-- The path of a URL: segments behind slashes, or one text that no reference can be resolved
against. -/
inductive Url.Path where
  | segments (list : List (List Char))
  | text (chars : List Char)
  deriving DecidableEq, Repr

/-- The parts of a URL, each in its written form. A host may be empty; without one there is no `//`
either. -/
structure Url where
  scheme : List Char
  userinfo : List Char
  host : Option (List Char)
  port : Option Nat
  path : Url.Path
  query : Option (List Char)
  fragment : Option (List Char)
  deriving DecidableEq, Repr

namespace Url

/-! ## Written form -/

def Path.chars : Path → List Char
  | .segments list => list.flatMap fun segment => '/' :: segment
  | .text chars => chars

def authorityChars (url : Url) : List Char :=
  match url.host with
  | none =>
    match url.path with
    | .segments ([] :: _ :: _) => ['/', '.']
    | _ => []
  | some host =>
    let userinfo := if url.userinfo.isEmpty then [] else url.userinfo ++ ['@']
    let port :=
      match url.port with
      | none => []
      | some port => ':' :: Nat.toDigits 10 port
    '/' :: '/' :: userinfo ++ host ++ port

def marked (mark : Char) : Option (List Char) → List Char
  | none => []
  | some chars => mark :: chars

def chars (url : Url) : List Char :=
  url.scheme ++ ':' :: url.authorityChars ++ url.path.chars ++ marked '?' url.query
    ++ marked '#' url.fragment

def text (url : Url) : String := String.ofList url.chars

/-- The last segment of the path; empty if there are no segments. -/
def lastSegment (url : Url) : String :=
  match url.path with
  | .segments list => String.ofList (list.getLastD [])
  | .text _ => ""

/-! ## Schemes -/

/-- Schemes with rules of their own for hosts and paths. -/
inductive Kind where
  | file
  | web
  | other
  deriving DecidableEq, Repr

def Kind.isSpecial : Kind → Bool
  | .other => false
  | _ => true

def defaultPort? (scheme : List Char) : Option Nat :=
  [("http", 80), ("https", 443), ("ws", 80), ("wss", 443), ("ftp", 21)].lookup
    (String.ofList scheme)

def kindOf (scheme : List Char) : Kind :=
  if scheme = "file".toList then .file
  else if (defaultPort? scheme).isSome then .web
  else .other

def isLetter (c : Char) : Bool := ('a' ≤ c && c ≤ 'z') || ('A' ≤ c && c ≤ 'Z')

def isSchemeChar (c : Char) : Bool :=
  isLetter c || Host.isDigit c || c == '+' || c == '-' || c == '.'

def splitScheme (input : List Char) : Option (List Char × List Char) :=
  match input with
  | c :: _ =>
    if isLetter c then
      match input.dropWhile isSchemeChar with
      | ':' :: rest => some ((input.takeWhile isSchemeChar).map Char.toLower, rest)
      | _ => none
    else none
  | [] => none

/-! ## Paths -/

def isDriveLetter : List Char → Bool
  | [c, mark] => isLetter c && (mark == ':' || mark == '|')
  | _ => false

def isNormalDriveLetter : List Char → Bool
  | [c, ':'] => isLetter c
  | _ => false

def isDot (segment : List Char) : Bool :=
  ["." , "%2e"].contains (String.ofList (segment.map Char.toLower))

def isDoubleDot (segment : List Char) : Bool :=
  ["..", ".%2e", "%2e.", "%2e%2e"].contains (String.ofList (segment.map Char.toLower))

def isSeparator (kind : Kind) (c : Char) : Bool := c == '/' || (kind.isSpecial && c == '\\')

def endsPath (c : Char) : Bool := c == '?' || c == '#'

/-- The text starts with a drive letter that ends there or at a separator. -/
def startsWithDrive : List Char → Bool
  | c :: mark :: rest =>
    isDriveLetter [c, mark] &&
      match rest with
      | [] => true
      | next :: _ => isSeparator .file next || endsPath next
  | _ => false

/-- Segments, the latest first. What is read next belongs to the latest one: it is empty behind a
slash. -/
abbrev Trail := List (List Char)

def Trail.root : Trail := [[]]

def Trail.extend (trail : Trail) (text : List Char) : Trail :=
  match trail with
  | [] => [text]
  | latest :: earlier => (latest ++ text) :: earlier

/-- Ends the latest segment with a slash, unless a slash is what the path ends in. -/
def Trail.close : Trail → Trail
  | [] :: earlier => [] :: earlier
  | trail => [] :: trail

/-- Drops what stands behind the last slash, but not the drive letter of a file. -/
def Trail.cut (kind : Kind) : Trail → Trail
  | [] => []
  | latest :: earlier =>
    if kind = .file && isNormalDriveLetter latest then latest :: earlier else [] :: earlier

/-- One segment up. A segment that is a drive letter stays, whatever the scheme. -/
def Trail.up (kind : Kind) : Trail → Trail
  | [] :: parent :: earlier =>
    if startsWithDrive parent then [] :: parent :: earlier else [] :: earlier
  | trail => trail.cut kind

structure PathReader where
  trail : Trail
  /-- The segment that is being read, its characters in reverse. -/
  segment : List Char
  /-- The segment goes on behind the drive letter that a file's path starts with: dots in it mean
  nothing. -/
  behindDrive : Bool
  /-- The path starts with a drive letter as a segment of its own. -/
  hasDrive : Bool

namespace PathReader

def start (trail : Trail) : PathReader := ⟨trail, [], false, false⟩

/-- Ends the segment; `slash` says that a separator follows it. -/
def endSegment (kind : Kind) (slash : Bool) (r : PathReader) : PathReader :=
  let segment := r.segment.reverse
  let next := fun (trail : Trail) (hasDrive : Bool) =>
    ⟨if slash then [] :: trail else trail, [], false, hasDrive⟩
  if r.behindDrive then next (r.trail.extend segment) r.hasDrive
  else if isDoubleDot segment then
    let trail := r.trail.up kind
    ⟨if slash then trail.close else trail, [], false, r.hasDrive⟩
  else if isDot segment then ⟨r.trail.close, [], false, r.hasDrive⟩
  else if kind = .file && r.trail = Trail.root && isDriveLetter segment then
    next [segment.take 1 ++ [':']] true
  else next (r.trail.extend segment) r.hasDrive

/-- A drive letter at the start of a file's path is a segment of its own, even when no slash follows
it. -/
def splitDrive (kind : Kind) (r : PathReader) : PathReader :=
  match kind, r.trail with
  | .file, [latest] =>
    let drive := latest ++ r.segment.reverse
    if isNormalDriveLetter drive then
      { r with trail := [[], drive], segment := [], behindDrive := !r.segment.isEmpty }
    else r
  | _, _ => r

def add (kind : Kind) (c : Char) (r : PathReader) : PathReader :=
  let r := r.splitDrive kind
  { r with segment := (Percent.encodeChar Percent.path c).reverse ++ r.segment }

def run (kind : Kind) (r : PathReader) : List Char → PathReader × List Char
  | [] => (r.endSegment kind false, [])
  | c :: rest =>
    if isSeparator kind c then run kind (r.endSegment kind true) rest
    else if endsPath c then (r.endSegment kind false, c :: rest)
    else run kind (r.add kind c) rest

end PathReader

/-- Empty segments at the front of a file's path, but for one that stands alone. -/
def dropEmptyFront : List (List Char) → List (List Char)
  | [] :: segment :: rest => dropEmptyFront (segment :: rest)
  | path => path

/-- Reads a path text on top of what is there; tells whether the path starts with a drive letter. -/
def readPath (kind : Kind) (trail : Trail) (input : List Char) : Path × Bool × List Char :=
  let (r, rest) := (PathReader.start trail).run kind input
  let segments := r.trail.reverse
  (.segments (if kind = .file then dropEmptyFront segments else segments), r.hasDrive, rest)

/-- The path behind an authority. It is empty only for schemes without rules of their own. -/
def readPathStart (kind : Kind) (input : List Char) : Path × Bool × List Char :=
  match input with
  | [] => (.segments (if kind.isSpecial then [[]] else []), false, [])
  | c :: rest =>
    if isSeparator kind c then readPath kind Trail.root rest
    else if endsPath c && !kind.isSpecial then (.segments [], false, c :: rest)
    else readPath kind Trail.root (c :: rest)

/-! ## Query and fragment -/

def withQueryAndFragment (url : Url) (input : List Char) : Url :=
  let set := if (kindOf url.scheme).isSpecial then Percent.specialQuery else Percent.query
  let fragment := fun (chars : List Char) => some (Percent.encode Percent.fragment chars)
  match input with
  | '?' :: rest =>
    let query := some (Percent.encode set (rest.takeWhile (· != '#')))
    match rest.dropWhile (· != '#') with
    | [] => { url with query := query, fragment := none }
    | _ :: rest => { url with query := query, fragment := fragment rest }
  | '#' :: rest => { url with query := none, fragment := fragment rest }
  | _ => { url with query := none, fragment := none }

/-! ## Authority -/

def endsAuthority (kind : Kind) (c : Char) : Bool := isSeparator kind c || endsPath c

/-- The text before the last `@`, if there is one, and the rest. -/
def splitUserinfo (authority : List Char) : Option (List Char) × List Char :=
  let host := (authority.reverse.takeWhile (· != '@')).reverse
  if host.length = authority.length then (none, authority)
  else (some (authority.take (authority.length - host.length - 1)), host)

/-- User and password, with the colon between them only before a password. -/
def encodeUserinfo (info : List Char) : List Char :=
  let user := Percent.encode Percent.userinfo (info.takeWhile (· != ':'))
  let password := Percent.encode Percent.userinfo ((info.dropWhile (· != ':')).drop 1)
  if password.isEmpty then user else user ++ ':' :: password

/-- The length of a host: up to the first colon outside of brackets. -/
def hostLength : Bool → List Char → Nat
  | _, [] => 0
  | bracketed, c :: rest =>
    if c = ':' && !bracketed then 0
    else hostLength (c == '[' || (bracketed && c != ']')) rest + 1

/-- The port, nothing when it is left out or the scheme's own; refused beyond 16 bits. -/
def readPort (scheme digits : List Char) : Option (Option Nat) :=
  if digits.isEmpty then some none
  else if digits.all Host.isDigit then
    match Host.number? 10 digits with
    | some port =>
      if 65535 < port then none
      else if defaultPort? scheme = some port then some none
      else some (some port)
    | none => none
  else none

def splitPort (input : List Char) : List Char × List Char :=
  let ends := fun c => c == '/' || c == '\\' || endsPath c
  (input.takeWhile (!ends ·), input.dropWhile (!ends ·))

def readAuthority (scheme : List Char) (input : List Char) : Option Url := do
  let kind := kindOf scheme
  let authority := input.takeWhile (!endsAuthority kind ·)
  let (info, _) := splitUserinfo authority
  let input :=
    match info with
    | none => input
    | some info => input.drop (info.length + 1)
  let userinfo := (info.map encodeUserinfo).getD []
  let authority := input.takeWhile (!endsAuthority kind ·)
  let host := authority.take (hostLength false authority)
  if info = some [] && authority.isEmpty && !input.isEmpty then none
  let rest := input.drop host.length
  if host.isEmpty && (kind.isSpecial || !userinfo.isEmpty || rest.head? = some ':') then none
  let host ← if kind.isSpecial then Host.domain? host else Host.plain? host
  let (port, rest) ←
    match rest with
    | ':' :: rest =>
      let (digits, rest) := splitPort rest
      (readPort scheme digits).map fun port => (port, rest)
    | rest => some (none, rest)
  let (path, _, rest) := readPathStart kind rest
  some (withQueryAndFragment ⟨scheme, userinfo, some host, port, path, none, none⟩ rest)

/-! ## Files -/

def fileScheme : List Char := "file".toList

def ofFile (host : List Char) (path : Path) (rest : List Char) : Url :=
  withQueryAndFragment ⟨fileScheme, [], some host, none, path, none, none⟩ rest

/-- Reads what follows `file://`. A path that starts with a drive letter leaves no host. -/
def readFileHost (input : List Char) : Option Url := do
  let host := input.takeWhile (!endsAuthority .file ·)
  let rest := input.drop host.length
  if isDriveLetter host then
    let (path, _, rest) := readPath .file Trail.root input
    some (ofFile [] path rest)
  else
    let name ← if host.isEmpty then some [] else Host.domain? host
    if name.isEmpty || name = "localhost".toList then
      let (path, _, rest) := readPath .file Trail.root rest
      some (ofFile [] path rest)
    else
      let (path, hasDrive, rest) := readPathStart .file rest
      some (ofFile (if hasDrive then [] else name) path rest)

def baseSegments (base : Url) : List (List Char) :=
  match base.path with
  | .segments list => list
  | .text _ => []

/-- Reads a file URL, its scheme already taken or left out, as seen from a file. -/
def readFile (base : Option Url) (input : List Char) : Option Url :=
  match input with
  | a :: b :: rest =>
    if isSeparator .file a && isSeparator .file b then readFileHost rest
    else if isSeparator .file a then readRooted (b :: rest) else readRelative input
  | [a] => if isSeparator .file a then readRooted [] else readRelative input
  | [] => readRelative []
where
  /-- One slash: the base gives the drive or the host. -/
  readRooted (rest : List Char) : Option Url :=
    let inherited := if startsWithDrive rest then none else base
    let drive := (((inherited.map baseSegments).getD []).take 1).filter isNormalDriveLetter
    let host := if drive.isEmpty then (inherited.bind (·.host)).getD [] else []
    let (path, _, rest) := readPath .file ([] :: drive) rest
    some (ofFile host path rest)
  /-- No slash: the base gives the directory too. -/
  readRelative (input : List Char) : Option Url :=
    match base with
    | none =>
      let (path, _, rest) := readPath .file Trail.root input
      some (ofFile [] path rest)
    | some base =>
      match input with
      | [] => some { base with fragment := none }
      | '?' :: _ => some (withQueryAndFragment base input)
      | '#' :: _ => some { withQueryAndFragment base input with query := base.query }
      | _ =>
        if startsWithDrive input then
          let (path, _, rest) := readPath .file Trail.root input
          some (ofFile [] path rest)
        else
          let directory := Trail.cut .file (baseSegments base).reverse
          let (path, _, rest) := readPath .file directory input
          some (ofFile (base.host.getD []) path rest)

/-! ## References -/

/-- Reads a reference without a scheme, or with the scheme of its base, as seen from a base that is
no file. -/
def readReference (base : Url) (input : List Char) : Option Url :=
  let kind := kindOf base.scheme
  let isSlash := fun c => c == '/' || c == '\\'
  match input with
  | [] => some { base with fragment := none }
  | '?' :: _ => some (withQueryAndFragment base input)
  | '#' :: _ => some { withQueryAndFragment base input with query := base.query }
  | c :: rest =>
    if isSlash c then
      if rest.head?.any isSlash then
        match input with
        | '/' :: '/' :: rest => readAuthority base.scheme rest
        | _ => readAuthority base.scheme (input.dropWhile isSlash)
      else
        let (path, _, rest) := readPath kind Trail.root rest
        some (withQueryAndFragment { base with path := path } rest)
    else
      let directory :=
        match Trail.cut kind (baseSegments base).reverse with
        | [] => Trail.root
        | directory => directory
      let (path, _, rest) := readPath kind directory input
      some (withQueryAndFragment { base with path := path } rest)

def readOther (scheme input : List Char) : Option Url :=
  match input with
  | '/' :: '/' :: rest => readAuthority scheme rest
  | '/' :: rest =>
    let (path, _, rest) := readPath .other Trail.root rest
    some (withQueryAndFragment ⟨scheme, [], none, none, path, none, none⟩ rest)
  | _ =>
    let path := Percent.encode Percent.control (input.takeWhile (!endsPath ·))
    some (withQueryAndFragment ⟨scheme, [], none, none, .text path, none, none⟩
      (input.dropWhile (!endsPath ·)))

/-- Blanks and controls around a URL do not count, nor do tabs and line breaks within. -/
def clean (input : List Char) : List Char :=
  let isEdge := fun c => c ≤ ' '
  let trimmed := ((input.dropWhile isEdge).reverse.dropWhile isEdge).reverse
  trimmed.filter fun c => c != '\t' && c != '\n' && c != '\r'

def readFrom (base : Option Url) (text : String) : Option Url :=
  let input := clean text.toList
  match splitScheme input with
  | some (scheme, rest) =>
    match kindOf scheme with
    | .file => readFile (base.filter fun base => base.scheme = fileScheme) rest
    | .other => readOther scheme rest
    | .web =>
      let slashes := (rest.takeWhile fun c => c == '/' || c == '\\').length
      match base with
      | some base =>
        if slashes < 2 && base.scheme = scheme then readReference base rest
        else readAuthority scheme (rest.drop slashes)
      | none => readAuthority scheme (rest.drop slashes)
  | none =>
    match base with
    | none => none
    | some base =>
      match input, base.path with
      | '#' :: _, _ => some { withQueryAndFragment base input with query := base.query }
      | _, .text _ => none
      | _, .segments _ =>
        if kindOf base.scheme = .file then readFile (some base) input
        else readReference base input

def read (text : String) : Option Url := readFrom none text

def join (base : Url) (reference : String) : Option Url := readFrom (some base) reference

end Url

end SchemaTypes
