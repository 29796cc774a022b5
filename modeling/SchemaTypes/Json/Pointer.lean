import SchemaTypes.Json.Basic

/-!
JSON pointers: paths into a value as text. In a segment `~` is written `~0` and `/` is written `~1`.
-/
namespace SchemaTypes.Pointer

def escapeChar (c : Char) : List Char :=
  if c = '~' then ['~', '0'] else if c = '/' then ['~', '1'] else [c]

def escape (segment : String) : String := String.ofList (segment.toList.flatMap escapeChar)

/-- Replaces `~` and the digit behind it by one character, wherever they stand together. -/
def replacePair (digit replacement : Char) : List Char → List Char
  | [] => []
  | [c] => [c]
  | c :: d :: rest =>
    if c = '~' ∧ d = digit then replacement :: replacePair digit replacement rest
    else c :: replacePair digit replacement (d :: rest)

def unescapeChars (segment : List Char) : List Char :=
  replacePair '0' '~' (replacePair '1' '/' segment)

def unescape (segment : String) : String := String.ofList (unescapeChars segment.toList)

def split : List Char → List (List Char)
  | [] => [[]]
  | c :: rest =>
    match split rest with
    | [] => [[c]]
    | piece :: more => if c = '/' then [] :: piece :: more else (c :: piece) :: more

def text (segments : List String) : String :=
  String.join (segments.map fun segment => "/" ++ escape segment)

/-- The segments behind the first slash of a text. -/
def segments (pointer : String) : List String :=
  ((split pointer.toList).drop 1).map fun piece => String.ofList (unescapeChars piece)

/-- An index without sign or leading zero; one beyond the last item finds nothing, however large
it is. -/
def index? (segment : String) : Option Nat :=
  match segment.toList with
  | [] => none
  | ['0'] => some 0
  | '0' :: _ => none
  | digits => if digits.all Char.isDigit then some (Nat.ofDigitChars 10 digits 0) else none

end SchemaTypes.Pointer

namespace SchemaTypes.Json

def child? (value : Json) (segment : String) : Option Json :=
  match value with
  | .obj members => members.lookup segment
  | .arr items => (Pointer.index? segment).bind (items[·]?)
  | _ => none

def at? (value : Json) (path : List String) : Option Json := path.foldlM child? value

/-- The part of a value that a pointer text names: the empty text names the value itself, all other
pointers start with a slash. -/
def pointer? (value : Json) (pointer : String) : Option Json :=
  if pointer.isEmpty then some value
  else if pointer.toList.head? = some '/' then value.at? (Pointer.segments pointer)
  else none

end SchemaTypes.Json
