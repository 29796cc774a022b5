import SchemaTypes.Json.Basic
import SchemaTypes.Json.Fault
import SchemaTypes.Text.Utf8

/-!
Reading JSON text, byte by byte. A reader takes a value off the front of the bytes and hands back
the rest; a refusal names its place by the number of bytes behind it.

Integers of 64 bits are kept, all other numbers become binary64 values. Nesting is bounded, which
is also why reading ends; each loop is bounded by the number of bytes left, which every round
shortens.
-/
namespace SchemaTypes.Json

abbrev Bytes := List UInt8

namespace Reader

/-- A refusal right behind the bytes taken so far. -/
def refuse {α : Type} (defect : Defect) (rest : Bytes) : Except Fault α :=
  .error ⟨defect, rest.length, []⟩

def refuseNext {α : Type} (defect : Defect) (rest : Bytes) : Except Fault α :=
  .error ⟨defect, rest.length - 1, []⟩

def isBlank (b : UInt8) : Bool := b == 0x20 || b == 0x0A || b == 0x09 || b == 0x0D

def skipBlanks (s : Bytes) : Bytes := s.dropWhile isBlank

def isDigit (b : UInt8) : Bool := 0x30 ≤ b && b ≤ 0x39

def digitValue (b : UInt8) : Nat := b.toNat - 0x30

def word (value : Json) : List UInt8 → Bytes → Except Fault (Json × Bytes)
  | [], rest => .ok (value, rest)
  | _ :: _, [] => refuse .endInValue []
  | expected :: more, b :: rest =>
    if b = expected then word value more rest else refuse .expectedWord rest

/-! ## Numbers -/

def maxInteger : Nat := Nat.pow 2 64 - 1

def maxExponent : Nat := Nat.pow 2 31 - 1

/-- The smallest integer that is kept as one is its negation. -/
def maxNegative : Nat := Nat.pow 2 63

/-- Takes digits for as long as the number they form stays within `limit`; tells how many. -/
def takeDigits (limit : Nat) : Nat → Nat → Bytes → Nat × Nat × Bytes
  | value, count, [] => (value, count, [])
  | value, count, b :: rest =>
    if isDigit b && value * 10 + digitValue b ≤ limit then
      takeDigits limit (value * 10 + digitValue b) (count + 1) rest
    else (value, count, b :: rest)

def startsWithDigit : Bytes → Bool
  | [] => false
  | b :: _ => isDigit b

def startsWithExponent : Bytes → Bool
  | [] => false
  | b :: _ => b == 0x65 || b == 0x45

def startsWithPoint : Bytes → Bool
  | [] => false
  | b :: _ => b == 0x2E

def float (negative : Bool) (value : Binary64) : Json :=
  .num (.float (if negative then value.neg else value))

def decimal (negative : Bool) (significand : Nat) (exponent : Int) (rest : Bytes) :
    Except Fault (Json × Bytes) :=
  match Binary64.ofDecimal significand exponent with
  | some value => .ok (float negative value, rest)
  | none => refuse .numberOutOfRange rest

def clampExponent (e : Int) : Int := max (-2147483648) (min e 2147483647)

/-- The exponent part, its mark still ahead. An exponent beyond every float gives zero when the
significand is zero or the exponent negative, and is refused otherwise. -/
def exponentPart (negative : Bool) (significand : Nat) (start : Int) (s : Bytes) :
    Except Fault (Json × Bytes) :=
  let (down, s) :=
    match s.drop 1 with
    | 0x2B :: rest => (false, rest)
    | 0x2D :: rest => (true, rest)
    | rest => (false, rest)
  match s with
  | [] => refuse .endInValue []
  | b :: rest =>
    if !isDigit b then refuse .invalidNumber rest
    else
      let (exponent, _, s) := takeDigits maxExponent 0 0 s
      if startsWithDigit s then
        if significand ≠ 0 && !down then refuse .numberOutOfRange (s.drop 1)
        else .ok (float negative .zero, s.dropWhile isDigit)
      else
        let exponent : Int := if down then -(exponent : Int) else exponent
        decimal negative significand (clampExponent (start + exponent)) s

/-- The part behind the integer digits: `exponent` counts the integer digits that were dropped.
Fraction digits beyond the range of the significand are dropped too. -/
def fractionPart (negative : Bool) (significand exponent : Nat) (s : Bytes) :
    Except Fault (Json × Bytes) :=
  let (significand, places, s) := takeDigits maxInteger significand 0 (s.drop 1)
  let exponent := (exponent : Int) - (places : Int)
  let overflowed := startsWithDigit s
  let s := s.dropWhile isDigit
  if places = 0 && !overflowed then
    if s.isEmpty then refuseNext .endInValue s else refuseNext .invalidNumber s
  else if startsWithExponent s then exponentPart negative significand exponent s
  else decimal negative significand exponent s

/-- An integer literal. Negative zero, and what does not fit in 64 bits, is a float. -/
def integer (negative : Bool) (value : Nat) : Json :=
  if negative then
    if value = 0 || maxNegative < value then
      float true (Binary64.ofFloat (Float.ofScientific value false 0))
    else .num (.int (-(value : Int)))
  else .num (.int value)

/-- A number, its sign already taken. -/
def number (negative : Bool) (s : Bytes) : Except Fault (Json × Bytes) :=
  match s with
  | [] => refuse .endInValue []
  | b :: rest =>
    if !isDigit b then refuse .invalidNumber rest
    else if b = 0x30 && startsWithDigit rest then refuseNext .invalidNumber rest
    else
      let (significand, _, s) := takeDigits maxInteger 0 0 s
      let dropped := (s.takeWhile isDigit).length
      let s := s.dropWhile isDigit
      if startsWithPoint s then fractionPart negative significand dropped s
      else if startsWithExponent s then exponentPart negative significand dropped s
      else if dropped = 0 then .ok (integer negative significand, s)
      else decimal negative significand dropped s

/-! ## Quoted text -/

def hexValue? (b : UInt8) : Option Nat :=
  if isDigit b then some (digitValue b)
  else if 0x61 ≤ b && b ≤ 0x66 then some (b.toNat - 0x61 + 10)
  else if 0x41 ≤ b && b ≤ 0x46 then some (b.toNat - 0x41 + 10)
  else none

def hexUnit : Bytes → Except Fault (Nat × Bytes)
  | a :: b :: c :: d :: rest =>
    match hexValue? a, hexValue? b, hexValue? c, hexValue? d with
    | some a, some b, some c, some d => .ok (((a * 16 + b) * 16 + c) * 16 + d, rest)
    | _, _, _, _ => refuse .invalidEscape rest
  | _ => refuse .endInString []

def isLeading (unit : Nat) : Bool := 0xD800 ≤ unit && unit ≤ 0xDBFF

def isTrailing (unit : Nat) : Bool := 0xDC00 ≤ unit && unit ≤ 0xDFFF

/-- Takes one byte that has to follow a leading surrogate. -/
def pairMark (expected : UInt8) : Bytes → Except Fault (Unit × Bytes)
  | [] => refuse .endInString []
  | b :: rest => if b = expected then .ok ((), rest) else refuse .unfinishedSurrogatePair rest

/-- A `\u` escape, its mark already taken; a leading surrogate needs a second escape. -/
def unicodeEscape (s : Bytes) : Except Fault (Char × Bytes) := do
  let (unit, s) ← hexUnit s
  if isTrailing unit then refuse .loneSurrogate s
  else if isLeading unit then
    let (_, s) ← pairMark 0x5C s
    let (_, s) ← pairMark 0x75 s
    let (second, s) ← hexUnit s
    if isTrailing second then
      .ok (Char.ofNat (0x10000 + (unit - 0xD800) * 0x400 + (second - 0xDC00)), s)
    else refuse .loneSurrogate s
  else .ok (Char.ofNat unit, s)

/-- An escape, its backslash already taken. -/
def escape : Bytes → Except Fault (Char × Bytes)
  | [] => refuse .endInString []
  | b :: rest =>
    match b with
    | 0x22 => .ok ('"', rest)
    | 0x5C => .ok ('\\', rest)
    | 0x2F => .ok ('/', rest)
    | 0x62 => .ok (Char.ofNat 8, rest)
    | 0x66 => .ok (Char.ofNat 12, rest)
    | 0x6E => .ok ('\n', rest)
    | 0x72 => .ok ('\r', rest)
    | 0x74 => .ok ('\t', rest)
    | 0x75 => unicodeEscape rest
    | _ => refuse .invalidEscape rest

/-- The text up to the closing quote. Bytes that are no UTF-8 are noticed at the end of the text.
They are reported as far in front of that end as the text itself reaches behind their start, each
escape counted by the bytes it stands for: `invalid` holds that length. -/
def quotedLoop : Nat → List Char → Option Nat → Bytes → Except Fault (String × Bytes)
  | 0, _, _, _ => refuse .endInString []
  | _ + 1, _, _, [] => refuse .endInString []
  | bound + 1, acc, invalid, b :: rest =>
    if b = 0x22 then
      match invalid with
      | none => .ok (String.ofList acc.reverse, rest)
      | some length => .error ⟨.invalidCodePoint, rest.length + length, []⟩
    else if b = 0x5C then
      match escape rest with
      | .ok (c, rest) => quotedLoop bound (c :: acc) (invalid.map (· + c.utf8Size)) rest
      | .error fault => .error fault
    else if b < 0x20 then refuse .controlCharacter rest
    else
      match Utf8.next? (b :: rest) with
      | some (c, rest) => quotedLoop bound (c :: acc) (invalid.map (· + c.utf8Size)) rest
      | none => quotedLoop bound acc (some (invalid.getD 0 + 1)) rest

/-- A quoted text, its opening quote already taken. -/
def quoted (s : Bytes) : Except Fault (String × Bytes) := quotedLoop (s.length + 1) [] none s

/-! ## Values -/

/-- The separator of a list or an object, up to the next entry. -/
inductive Separator where
  | done (rest : Bytes)
  | next (rest : Bytes)

def itemSeparator (first : Bool) (s : Bytes) : Except Fault Separator :=
  match skipBlanks s with
  | [] => refuseNext .endInList []
  | 0x5D :: rest => .ok (.done rest)
  | b :: rest =>
    if first then .ok (.next (b :: rest))
    else if b = 0x2C then
      match skipBlanks rest with
      | [] => refuseNext .endInValue []
      | 0x5D :: rest => refuseNext .trailingComma (0x5D :: rest)
      | rest => .ok (.next rest)
    else refuseNext .expectedListSeparator (b :: rest)

/-- What stands before the next key of an object, whose opening quote is taken too. -/
def memberSeparator (first : Bool) (s : Bytes) : Except Fault Separator :=
  match skipBlanks s with
  | [] => refuseNext .endInObject []
  | 0x7D :: rest => .ok (.done rest)
  | 0x22 :: rest =>
    if first then .ok (.next rest) else refuseNext .expectedMemberSeparator (0x22 :: rest)
  | b :: rest =>
    if first then refuseNext .keyNotString (b :: rest)
    else if b = 0x2C then
      match skipBlanks rest with
      | [] => refuseNext .endInValue []
      | 0x22 :: rest => .ok (.next rest)
      | 0x7D :: rest => refuseNext .trailingComma (0x7D :: rest)
      | rest => refuseNext .keyNotString rest
    else refuseNext .expectedMemberSeparator (b :: rest)

def colon (s : Bytes) : Except Fault (Unit × Bytes) :=
  match skipBlanks s with
  | [] => refuseNext .endInObject []
  | 0x3A :: rest => .ok ((), rest)
  | rest => refuseNext .expectedColon rest

def within {α : Type} (step : Step) (taken : Except Fault α) : Except Fault α :=
  match taken with
  | .ok value => .ok value
  | .error fault => .error { fault with path := step :: fault.path }

def items (item : Bytes → Except Fault (Json × Bytes)) :
    Nat → Nat → List Json → Bytes → Except Fault (Json × Bytes)
  | 0, _, _, _ => refuseNext .endInList []
  | bound + 1, index, acc, s => do
    match ← itemSeparator (index == 0) s with
    | .done rest => .ok (.arr acc.reverse, rest)
    | .next rest =>
      let (value, rest) ← within (.index index) (item rest)
      items item bound (index + 1) (value :: acc) rest

def members (item : Bytes → Except Fault (Json × Bytes)) :
    Nat → Bool → Members → Bytes → Except Fault (Json × Bytes)
  | 0, _, _, _ => refuseNext .endInObject []
  | bound + 1, first, acc, s => do
    match ← within .unknown (memberSeparator first s) with
    | .done rest => .ok (.obj acc, rest)
    | .next rest =>
      let (key, rest) ← within .unknown (quoted rest)
      let (_, rest) ← colon rest
      let (value, rest) ← within (.key key) (item rest)
      members item bound false (Keyed.insert acc key value) rest

/-- A value that may hold `depth` levels of lists and objects. -/
def value : Nat → Bytes → Except Fault (Json × Bytes)
  | depth, s =>
    match skipBlanks s with
    | [] => refuseNext .endInValue []
    | b :: rest =>
      match b with
      | 0x6E => word .null [0x75, 0x6C, 0x6C] rest
      | 0x74 => word (.bool true) [0x72, 0x75, 0x65] rest
      | 0x66 => word (.bool false) [0x61, 0x6C, 0x73, 0x65] rest
      | 0x2D => number true rest
      | 0x22 => do
        let (text, rest) ← quoted rest
        .ok (.str text, rest)
      | 0x5B =>
        match depth with
        | 0 => refuseNext .nestedTooDeep (b :: rest)
        | depth + 1 => items (value depth) (rest.length + 1) 0 [] rest
      | 0x7B =>
        match depth with
        | 0 => refuseNext .nestedTooDeep (b :: rest)
        | depth + 1 => members (value depth) (rest.length + 1) true [] rest
      | _ => if isDigit b then number false (b :: rest) else refuseNext .expectedValue (b :: rest)

def document (depth : Nat) (s : Bytes) : Except Fault Json := do
  let (result, rest) ← value depth s
  match skipBlanks rest with
  | [] => .ok result
  | rest => refuseNext .trailingCharacters rest

/-- The place behind `offset` bytes: its line, counted from one, and its distance from the start of
that line. -/
def place (s : Bytes) (offset : Nat) : Nat × Nat :=
  let before := s.take offset
  let column := (before.reverse.takeWhile (· != 0x0A)).length
  (1 + before.count 0x0A, column)

end Reader

def maxNesting : Nat := 127

/-- Reads a text that holds one value nested at most `depth` deep. -/
def readNested (depth : Nat) (s : Bytes) : Except ReadError Json :=
  match Reader.document depth s with
  | .ok value => .ok value
  | .error fault =>
    let (line, column) := Reader.place s (s.length - fault.left)
    .error ⟨fault.path, fault.defect, line, column⟩

def read (s : Bytes) : Except ReadError Json := readNested maxNesting s

end SchemaTypes.Json
