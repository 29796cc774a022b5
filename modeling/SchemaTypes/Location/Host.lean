import SchemaTypes.Location.Domain
import SchemaTypes.Location.Percent

/-!
The host of a URL in its written form: a domain name, an address of four bytes or eight groups, or,
for schemes without rules of their own, text that is kept.
-/
namespace SchemaTypes.Host

def isDigit (c : Char) : Bool := '0' ≤ c && c ≤ '9'

def digitValue? (c : Char) : Option Nat :=
  if isDigit c then some (c.toNat - 0x30)
  else if 'a' ≤ c && c ≤ 'f' then some (c.toNat - 0x61 + 10)
  else if 'A' ≤ c && c ≤ 'F' then some (c.toNat - 0x41 + 10)
  else none

def number? (base : Nat) (digits : List Char) : Option Nat :=
  digits.foldlM (fun value c => do
    let d ← digitValue? c
    if d < base then some (value * base + d) else none) 0

/-! ## Addresses of four bytes -/

/-- A part of an address: hexadecimal behind `0x`, octal behind `0`, otherwise decimal. -/
def partValue? : List Char → Option Nat
  | [] => none
  | '0' :: 'x' :: digits => number? 16 digits
  | '0' :: 'X' :: digits => number? 16 digits
  | '0' :: d :: digits => number? 8 (d :: digits)
  | digits => number? 10 digits

/-- Names whose last label is a number are addresses, or nothing at all. -/
def endsInNumber (name : List Char) : Bool :=
  let parts := (Text.pieces '.' name).reverse
  let parts := if parts.head? = some [] then parts.drop 1 else parts
  match parts with
  | [] => false
  | last :: _ => (!last.isEmpty && last.all isDigit) || (partValue? last).isSome

/-- Puts the parts together: each but the last is one byte, the last fills the rest. -/
def joinParts : Nat → List Nat → Option Nat
  | _, [] => none
  | room, [last] => if last < 256 ^ room then some last else none
  | room, part :: rest =>
    if part < 256 then (joinParts (room - 1) rest).map (part * 256 ^ (room - 1) + ·) else none

def address4? (name : List Char) : Option Nat :=
  let parts := Text.pieces '.' name
  let parts := if parts.getLast? = some [] then parts.dropLast else parts
  if 4 < parts.length then none else (parts.mapM partValue?).bind (joinParts 4)

def decimal (n : Nat) : List Char := Nat.toDigits 10 n

def address4Text (n : Nat) : List Char :=
  let bytes := [n / Nat.pow 2 24, n / Nat.pow 2 16 % 256, n / Nat.pow 2 8 % 256, n % 256]
  Text.join '.' (bytes.map decimal)

/-! ## Addresses of eight groups -/

def group? (digits : List Char) : Option Nat :=
  if digits.isEmpty || 4 < digits.length then none else number? 16 digits

def byte? (digits : List Char) : Option Nat :=
  match digits with
  | [] => none
  | '0' :: _ :: _ => none
  | _ =>
    if 3 < digits.length then none
    else (number? 10 digits).bind fun n => if n < 256 then some n else none

/-- Four bytes that stand for the last two groups. -/
def embedded? (text : List Char) : Option (List Nat) :=
  match (Text.pieces '.' text).mapM byte? with
  | some [a, b, c, d] => some [a * 256 + b, c * 256 + d]
  | _ => none

/-- Groups between colons, the last of which may be four bytes. -/
def groups? : List (List Char) → Option (List Nat)
  | [] => some []
  | [last] => if last.contains '.' then embedded? last else (group? last).map ([·])
  | first :: rest => do
    let group ← group? first
    let groups ← groups? rest
    some (group :: groups)

def splitGap : List Char → Option (List Char × List Char)
  | ':' :: ':' :: rest => some ([], rest)
  | c :: rest => (splitGap rest).map fun (before, after) => (c :: before, after)
  | [] => none

def groupsOf? (text : List Char) : Option (List Nat) :=
  if text.isEmpty then some [] else groups? (Text.pieces ':' text)

/-- Eight groups; a gap stands for at least one group of zero, and what precedes it holds no bytes
in decimal. -/
def address6? (text : List Char) : Option (List Nat) :=
  match splitGap text with
  | none => (groupsOf? text).bind fun groups => if groups.length = 8 then some groups else none
  | some (before, after) =>
    if before.contains '.' then none
    else do
      let left ← groupsOf? before
      let right ← groupsOf? after
      if left.length + right.length < 8 then
        some (left ++ List.replicate (8 - left.length - right.length) 0 ++ right)
      else none

def zeroRun (groups : List Nat) : Nat := (groups.takeWhile (· == 0)).length

/-- Where the first of the longest runs of zeros starts, and its length. -/
def longestRun : Nat → List Nat → Nat × Nat
  | start, [] => (start, 0)
  | start, group :: rest =>
    let later := longestRun (start + 1) rest
    let here := zeroRun (group :: rest)
    if later.2 ≤ here then (start, here) else later

/-- Groups in hexadecimal, the first longest run of at least two zeros left out. -/
def address6Text (groups : List Nat) : List Char :=
  let hex := fun (groups : List Nat) => Text.join ':' (groups.map (Nat.toDigits 16))
  let (start, length) := longestRun 0 groups
  if length < 2 then hex groups
  else hex (groups.take start) ++ [':', ':'] ++ hex (groups.drop (start + length))

/-! ## Hosts -/

def bracketed? (text : List Char) : Option (List Char) :=
  if text.getLast? = some ']' then
    (address6? (text.drop 1).dropLast).map fun groups => '[' :: address6Text groups ++ [']']
  else none

def characters? : Nat → List UInt8 → Option (List Char)
  | _, [] => some []
  | 0, _ => none
  | bound + 1, bytes =>
    (Utf8.next? bytes).bind fun (c, rest) => (characters? bound rest).map (c :: ·)

/-- The host of a scheme with rules for hosts. -/
def domain? (text : List Char) : Option (List Char) :=
  if text.head? = some '[' then bracketed? text
  else do
    let bytes := Percent.decode (Utf8.encode (String.ofList text))
    let name ← characters? bytes.length bytes
    let name ← Domain.toAscii name
    if name.isEmpty then none
    else if endsInNumber name then (address4? name).map address4Text
    else some name

def isForbidden (c : Char) : Bool :=
  [Char.ofNat 0, '\t', '\n', '\r', ' ', '#', '/', ':', '<', '>', '?', '@', '[', '\\', ']', '^',
    '|'].contains c

/-- The host of any other scheme. -/
def plain? (text : List Char) : Option (List Char) :=
  if text.head? = some '[' then bracketed? text
  else if text.any isForbidden then none
  else some (Percent.encode Percent.control text)

end SchemaTypes.Host
