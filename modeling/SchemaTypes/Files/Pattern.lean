import SchemaTypes.Location.FilePath

/-!
Patterns of paths. In a name `?` stands for one character, `*` for any number of them, and brackets
for one of the characters they list, or with `!` for one that they do not list. A name `**` stands
for any number of directories.
-/
namespace SchemaTypes

inductive PatternFault where
  | unclosedRange
  | tooManyStars
  /-- `**` beside other characters in one name. -/
  | depthInName
  deriving DecidableEq, Repr

def PatternFault.text : PatternFault → String
  | .unclosedRange => "invalid range pattern"
  | .tooManyStars => "wildcards are either regular `*` or recursive `**`"
  | .depthInName => "recursive wildcards must form a single path component"

structure PatternError where
  position : Nat
  fault : PatternFault
  deriving DecidableEq, Repr

def PatternError.message (error : PatternError) : String :=
  "Pattern syntax error near position " ++ toString error.position ++ ": " ++ error.fault.text

structure CharRange where
  first : Char
  last : Char
  deriving DecidableEq, Repr

def CharRange.contains (range : CharRange) (c : Char) : Bool :=
  decide (range.first ≤ c) && decide (c ≤ range.last)

namespace Pattern

inductive Token where
  | char (c : Char)
  | one
  | many
  | among (ranges : List CharRange)
  | outside (ranges : List CharRange)
  | anyDepth
  deriving DecidableEq, Repr

/-- The ranges between brackets; a dash between two characters makes them the ends of a range. -/
def ranges : List Char → List CharRange
  | a :: '-' :: b :: rest => ⟨a, b⟩ :: ranges rest
  | a :: rest => ⟨a, a⟩ :: ranges rest
  | [] => []

/-- What stands before the closing bracket, and what follows it. The first character never closes,
so a bracket can be listed. -/
def bracketed? : List Char → Option (List Char × List Char)
  | [] => none
  | first :: rest =>
    if rest.contains ']' then
      some (first :: rest.takeWhile (· != ']'), (rest.dropWhile (· != ']')).drop 1)
    else none

theorem length_lt_of_bracketed? {text listed rest : List Char}
    (h : bracketed? text = some (listed, rest)) : rest.length < text.length := by
  cases text with
  | nil => simp [bracketed?] at h
  | cons first tail =>
    simp only [bracketed?] at h
    split at h
    · cases h
      have shorter := (List.dropWhile_suffix (l := tail) (· != ']')).length_le
      simp only [List.length_drop, List.length_cons]
      omega
    · contradiction

/-- Reads the tokens of a text whose first character stands at `position`; `fresh` says that no
other character of its name stands before it. -/
def tokens (position : Nat) (fresh : Bool) (text : List Char) : Except PatternError (List Token) :=
  match text with
  | [] => .ok []
  | '?' :: rest => (tokens (position + 1) false rest).map (.one :: ·)
  | '*' :: '*' :: '*' :: _ => .error ⟨position + 2, .tooManyStars⟩
  | '*' :: '*' :: rest =>
    if fresh then
      match rest with
      | [] => .ok [.anyDepth]
      | '/' :: rest => (tokens (position + 3) true rest).map (.anyDepth :: ·)
      | _ => .error ⟨position + 2, .depthInName⟩
    else .error ⟨position - 1, .depthInName⟩
  | '*' :: rest => (tokens (position + 1) false rest).map (.many :: ·)
  | '[' :: '!' :: rest =>
    match closed : bracketed? rest with
    | none => .error ⟨position, .unclosedRange⟩
    | some (listed, rest) =>
      have := length_lt_of_bracketed? closed
      (tokens (position + listed.length + 3) false rest).map (.outside (ranges listed) :: ·)
  | '[' :: rest =>
    match closed : bracketed? rest with
    | none => .error ⟨position, .unclosedRange⟩
    | some (listed, rest) =>
      have := length_lt_of_bracketed? closed
      (tokens (position + listed.length + 2) false rest).map (.among (ranges listed) :: ·)
  | c :: rest => (tokens (position + 1) (FilePath.isSlash c) rest).map (.char c :: ·)
termination_by text.length

def Token.accepts : Token → Char → Bool
  | .char d, c => c == d
  | .one, _ => true
  | .among ranges, c => ranges.any (·.contains c)
  | .outside ranges, c => !ranges.any (·.contains c)
  | _, _ => false

/-- Some end of the text, the whole and the empty one included, has a property. -/
def anyEnd (p : List Char → Bool) : List Char → Bool
  | [] => p []
  | c :: rest => p (c :: rest) || anyEnd p rest

/-- The tokens describe the whole name. No name is any number of directories. -/
def accepts : List Token → List Char → Bool
  | [], name => name.isEmpty
  | .many :: tokens, name => anyEnd (accepts tokens) name
  | token :: tokens, c :: name => token.accepts c && accepts tokens name
  | _ :: _, [] => false

end Pattern

open Pattern

inductive NamePattern where
  | anyDepth
  | literal (name : String)
  | wild (tokens : List Token)
  deriving DecidableEq, Repr

namespace NamePattern

def literal? : List Token → Option (List Char)
  | [] => some []
  | .char c :: tokens => (literal? tokens).map (c :: ·)
  | _ :: _ => none

def ofTokens (tokens : List Token) : NamePattern :=
  match literal? tokens with
  | some name => .literal (String.ofList name)
  | none => if tokens = [.anyDepth] then .anyDepth else .wild tokens

def accepts : NamePattern → String → Bool
  | .anyDepth, _ => false
  | .literal text, name => text == name
  | .wild tokens, name => Pattern.accepts tokens name.toList

/-- A pattern that starts with a dot also covers `.` and `..`. -/
def startsWithDot : NamePattern → Bool
  | .wild (.char '.' :: _) => true
  | _ => false

end NamePattern

structure PathPattern where
  absolute : Bool
  names : List NamePattern
  /-- Only directories are meant. -/
  directories : Bool
  deriving Repr

namespace PathPattern

def isPattern (text : String) : Bool := text.toList.any fun c => c == '*' || c == '?' || c == '['

/-- The pieces between slashes, without an empty one at the end. -/
def namePieces (text : List Char) : List (List Char) :=
  let pieces := FilePath.pieces text
  if pieces.getLast? = some [] then pieces.dropLast else pieces

/-- The text has to be well formed as a whole, and so has each name in it. -/
def read (text : String) : Except PatternError PathPattern := do
  let chars := text.toList
  let _ ← tokens 0 true chars
  let absolute := FilePath.isAbsolute text
  let names ← (namePieces (if absolute then chars.drop 1 else chars)).mapM fun name =>
    (tokens 0 true name).map NamePattern.ofTokens
  return ⟨absolute, names, chars.getLast?.any FilePath.isSlash⟩

end PathPattern

end SchemaTypes
