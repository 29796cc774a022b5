import SchemaTypes.Json.Basic
import SchemaTypes.Number.Text

/-!
JSON text: the compact form, without blanks, and the pretty form, indented by two blanks.

Both escape the quote, the backslash and the characters below the blank; all else is written raw.
-/
namespace SchemaTypes

namespace Number

def text : Number → String
  | .int value => toString value
  | .float value => value.text

end Number

namespace Json

def hexDigit (n : Nat) : Char := (Nat.toDigits 16 n).headD '0'

/-- The written form of one character inside a quoted text. -/
def escapeChar (c : Char) : List Char :=
  match c with
  | '"' => ['\\', '"']
  | '\\' => ['\\', '\\']
  | '\n' => ['\\', 'n']
  | '\r' => ['\\', 'r']
  | '\t' => ['\\', 't']
  | _ =>
    if c.toNat = 8 then ['\\', 'b']
    else if c.toNat = 12 then ['\\', 'f']
    else if c.toNat < 32 then
      ['\\', 'u', '0', '0', hexDigit (c.toNat / 16), hexDigit (c.toNat % 16)]
    else [c]

def quote (s : String) : String :=
  String.ofList ('"' :: s.toList.flatMap escapeChar ++ ['"'])

def boolText (b : Bool) : String := if b then "true" else "false"

mutual

/-- The compact form. -/
def compact : Json → String
  | .null => "null"
  | .bool b => boolText b
  | .num n => n.text
  | .str s => quote s
  | .arr items => "[" ++ String.intercalate "," (compactItems items) ++ "]"
  | .obj members => "\x7b" ++ String.intercalate "," (compactMembers members) ++ "\x7d"

def compactItems : List Json → List String
  | [] => []
  | value :: rest => compact value :: compactItems rest

def compactMembers : List (String × Json) → List String
  | [] => []
  | (key, value) :: rest => (quote key ++ ":" ++ compact value) :: compactMembers rest

end

/-- The line break before something at nesting depth `depth`. -/
def lineBreak (depth : Nat) : String := "\n" ++ String.ofList (List.replicate (2 * depth) ' ')

/-- Puts each entry on a line of its own between the brackets; without entries the brackets stay
shut. -/
def block (opening closing : String) (depth : Nat) (entries : List String) : String :=
  if entries.isEmpty then opening ++ closing
  else
    let separator := lineBreak (depth + 1)
    opening ++ separator ++ String.intercalate ("," ++ separator) entries ++ lineBreak depth
      ++ closing

mutual

/-- The pretty form of a value that stands at nesting depth `depth`. -/
def prettyAt (depth : Nat) : Json → String
  | .null => "null"
  | .bool b => boolText b
  | .num n => n.text
  | .str s => quote s
  | .arr items => block "[" "]" depth (prettyItems (depth + 1) items)
  | .obj members => block "\x7b" "\x7d" depth (prettyMembers (depth + 1) members)

def prettyItems (depth : Nat) : List Json → List String
  | [] => []
  | value :: rest => prettyAt depth value :: prettyItems depth rest

def prettyMembers (depth : Nat) : List (String × Json) → List String
  | [] => []
  | (key, value) :: rest =>
    (quote key ++ ": " ++ prettyAt depth value) :: prettyMembers depth rest

end

def pretty (value : Json) : String := prettyAt 0 value

end Json

end SchemaTypes
