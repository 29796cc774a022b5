import SchemaTypes.Text.Extending
import SchemaTypes.Text.Unprintable

/-!
Text between double quotes. The quote, the backslash and everything unprintable are escaped, and so
is what would merge with the character before it.
-/
namespace SchemaTypes.Text

/-- The escape of a character by its code point. -/
def codePointEscape (c : Char) : List Char :=
  ['\\', 'u', '\x7b'] ++ Nat.toDigits 16 c.toNat ++ ['\x7d']

def escapeChar (c : Char) : List Char :=
  match c with
  | '"' => ['\\', '"']
  | '\\' => ['\\', '\\']
  | '\n' => ['\\', 'n']
  | '\r' => ['\\', 'r']
  | '\t' => ['\\', 't']
  | _ =>
    if c.toNat = 0 then ['\\', '0']
    else if isExtending c || isUnprintable c then codePointEscape c
    else [c]

def quote (s : String) : String :=
  String.ofList ('"' :: s.toList.flatMap escapeChar ++ ['"'])

end SchemaTypes.Text
