/-!
Names in a generated data model: the item name for a type, the identifier for a field, and the first
free variant of a name that is taken. Only ASCII letters and digits count as such here.
-/
namespace SchemaTypes.DataModel

def isLower (c : Char) : Bool := 'a' ≤ c && c ≤ 'z'

def isUpper (c : Char) : Bool := 'A' ≤ c && c ≤ 'Z'

def isDigit (c : Char) : Bool := '0' ≤ c && c ≤ '9'

def isAlphanumeric (c : Char) : Bool := isLower c || isUpper c || isDigit c

def toLower (c : Char) : Char := if isUpper c then Char.ofNat (c.toNat + 32) else c

def toUpper (c : Char) : Char := if isLower c then Char.ofNat (c.toNat - 32) else c

def startsWithDigit : List Char → Bool
  | [] => false
  | c :: _ => isDigit c

/-! ## Item names -/

/-- Drops what separates words and starts every word with a capital letter. -/
def joinWords (wordStart : Bool) : List Char → List Char
  | [] => []
  | c :: rest =>
    if isAlphanumeric c then (if wordStart then toUpper c else c) :: joinWords false rest
    else joinWords true rest

/-- The name for an item: no text gives an empty name or one that starts with a digit. -/
def itemName (raw : String) : String :=
  let joined := joinWords true raw.toList
  String.ofList (if joined.isEmpty || startsWithDigit joined then 'T' :: joined else joined)

/-! ## Field identifiers -/

/-- Words that no field can be called. -/
def keywords : List String := [
  "as", "async", "await", "box", "break", "const", "continue", "crate", "dyn", "else", "enum",
  "extern", "false", "fn", "for", "gen", "if", "impl", "in", "let", "loop", "match", "mod",
  "move", "mut", "pub", "ref", "return", "self", "static", "struct", "super", "trait", "true",
  "type", "unsafe", "use", "where", "while", "yield"]

/-- Lower-case words joined by underscores. A capital letter behind a small letter or a digit starts
a word; any run of other characters is one underscore. `written` is the result so far in reverse. -/
def snakeFrom (written : List Char) (afterSmall : Bool) : List Char → List Char
  | [] => written.reverse
  | c :: rest =>
    if isUpper c then
      snakeFrom (toLower c :: if afterSmall then '_' :: written else written) false rest
    else if isAlphanumeric c then snakeFrom (c :: written) true rest
    else
      snakeFrom (if written.head? = some '_' then written else '_' :: written) false rest

def fieldIdent (raw : String) : String :=
  let snake := snakeFrom [] false raw.toList
  let ident :=
    String.ofList (if snake.isEmpty || startsWithDigit snake then '_' :: snake else snake)
  if keywords.contains ident then ident ++ "_" else ident

/-! ## Free names -/

def numbered (base separator : String) (n : Nat) : String := base ++ separator ++ toString n

/-- The first free numbered name from `n` on, of which at most `bound` are taken. -/
def firstFree (taken : List String) (base separator : String) : Nat → Nat → String
  | 0, n => numbered base separator n
  | bound + 1, n =>
    if taken.contains (numbered base separator n) then firstFree taken base separator bound (n + 1)
    else numbered base separator n

/-- The base itself when free, otherwise the base with the least free number from two on. -/
def nextFree (taken : List String) (base separator : String) : String :=
  if taken.contains base then firstFree taken base separator taken.length 2 else base

end SchemaTypes.DataModel
