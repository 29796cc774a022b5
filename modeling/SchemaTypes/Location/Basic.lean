import SchemaTypes.Location.FilePath
import SchemaTypes.Location.Url

/-!
Where a schema document is: a URL, or a file path. Text is a URL when it has a scheme followed by
`//` and a host; all other text is a path.
-/
namespace SchemaTypes

inductive Location where
  | url (url : Url)
  | path (text : String)
  deriving Repr

namespace Location

def text : Location → String
  | .url u => u.text
  | .path p => p

/-- What tells one location from another: the written form of a URL, the components of a path. -/
inductive Key where
  | url (text : String)
  | path (components : Array FilePath.Component)
  deriving DecidableEq, Repr

def key : Location → Key
  | .url u => .url u.text
  | .path p => .path (FilePath.components p).toArray

def same (a b : Location) : Bool := a.key == b.key

/-- The text before the first `://` and behind it. -/
def splitMark : List Char → Option (List Char × List Char)
  | ':' :: '/' :: '/' :: rest => some ([], rest)
  | c :: rest => (splitMark rest).map fun (before, after) => (c :: before, after)
  | [] => none

/-- A scheme, `://`, and at least one character before the next slash, question mark or hash. The
text is taken as it stands: reading it as a URL would find a host in `http:x` too. -/
def hasAuthority (href : String) : Bool :=
  match splitMark href.toList with
  | none => false
  | some (scheme, rest) =>
    let startsWithLetter := scheme.head?.any Url.isLetter
    let authority := rest.takeWhile fun c => c != '/' && !Url.endsPath c
    startsWithLetter && scheme.all Url.isSchemeChar && !authority.isEmpty

def parse (href : String) : Location :=
  if hasAuthority href then
    match Url.read href with
    | some u => if u.host.any (!·.isEmpty) then .url u else .path href
    | none => .path href
  else .path href

/-- What a reference means in the document at `base`. -/
def resolve (reference : String) (base : Option Location) : Location :=
  match parse reference, base with
  | .url u, _ => .url u
  | .path p, some (.url b) =>
    match b.join reference with
    | some u => .url u
    | none => .path p
  | .path p, some (.path b) =>
    if FilePath.isAbsolute reference then .path p
    else
      match FilePath.parent? b with
      | some dir => .path (FilePath.join dir reference)
      | none => .path p
  | .path p, none => .path p

end Location

end SchemaTypes
