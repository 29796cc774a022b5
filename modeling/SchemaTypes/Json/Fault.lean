/-!
Why a JSON text is refused, and where: the place in the text by line and column, and the place in
the value by the keys and indices that lead to it.
-/
namespace SchemaTypes.Json

inductive Defect where
  | endInValue
  | endInList
  | endInObject
  | endInString
  | expectedWord
  | expectedValue
  | expectedColon
  | expectedListSeparator
  | expectedMemberSeparator
  | keyNotString
  | trailingComma
  | trailingCharacters
  | invalidEscape
  | invalidNumber
  | numberOutOfRange
  | invalidCodePoint
  | controlCharacter
  | loneSurrogate
  | unfinishedSurrogatePair
  | nestedTooDeep
  deriving DecidableEq, Repr

def Defect.text : Defect → String
  | .endInValue => "EOF while parsing a value"
  | .endInList => "EOF while parsing a list"
  | .endInObject => "EOF while parsing an object"
  | .endInString => "EOF while parsing a string"
  | .expectedWord => "expected ident"
  | .expectedValue => "expected value"
  | .expectedColon => "expected `:`"
  | .expectedListSeparator => "expected `,` or `]`"
  | .expectedMemberSeparator => "expected `,` or `\x7d`"
  | .keyNotString => "key must be a string"
  | .trailingComma => "trailing comma"
  | .trailingCharacters => "trailing characters"
  | .invalidEscape => "invalid escape"
  | .invalidNumber => "invalid number"
  | .numberOutOfRange => "number out of range"
  | .invalidCodePoint => "invalid unicode code point"
  | .controlCharacter => "control character (\\u0000-\\u001F) found while parsing a string"
  | .loneSurrogate => "lone leading surrogate in hex escape"
  | .unfinishedSurrogatePair => "unexpected end of hex escape"
  | .nestedTooDeep => "recursion limit exceeded"

/-- One step from a value to a part of it. The key of a member that cannot be read is unknown. -/
inductive Step where
  | index (n : Nat)
  | key (name : String)
  | unknown
  deriving DecidableEq, Repr

def Step.text : Step → String
  | .index n => "[" ++ toString n ++ "]"
  | .key name => name
  | .unknown => "?"

/-- Keys are set off by a point from what stands before them, indices are not. -/
def Step.attach (before : String) (step : Step) : String :=
  match step with
  | .index _ => before ++ step.text
  | _ => before ++ "." ++ step.text

/-- A refusal while reading: `left` bytes of the text stand behind the place of the defect. -/
structure Fault where
  defect : Defect
  left : Nat
  path : List Step
  deriving Repr

structure ReadError where
  path : List Step
  defect : Defect
  line : Nat
  column : Nat
  deriving Repr

namespace ReadError

/-- The steps, or a point for the value itself. -/
def pathText (e : ReadError) : String :=
  match e.path with
  | [] => "."
  | first :: rest => rest.foldl Step.attach first.text

def reason (e : ReadError) : String :=
  e.defect.text ++ " at line " ++ toString e.line ++ " column " ++ toString e.column

def message (e : ReadError) : String := "at JSON path " ++ e.pathText ++ " → " ++ e.reason

end ReadError

end SchemaTypes.Json
