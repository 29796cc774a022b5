/-!
Punycode: text as ASCII letters and digits. The characters of ASCII come first; the others follow as
insertions in order of code point, each a number in a mixed base whose thresholds adapt.
-/
namespace SchemaTypes.Punycode

def digitChar (d : Nat) : Char := Char.ofNat (if d < 26 then 0x61 + d else 0x30 + (d - 26))

def digitValue? (c : Char) : Option Nat :=
  if 'a' ≤ c ∧ c ≤ 'z' then some (c.toNat - 0x61)
  else if 'A' ≤ c ∧ c ≤ 'Z' then some (c.toNat - 0x41)
  else if '0' ≤ c ∧ c ≤ '9' then some (c.toNat - 0x30 + 26)
  else none

/-- The least value of the last digit at position `k`. -/
def threshold (bias k : Nat) : Nat := max 1 (min 26 (k - bias))

def shrink (delta k : Nat) : Nat × Nat :=
  if 455 < delta then shrink (delta / 35) (k + 36) else (delta, k)
termination_by delta
decreasing_by omega

/-- The bias after an insertion by `delta` that makes `count` characters. -/
def adapt (delta count : Nat) (first : Bool) : Nat :=
  let halved := if first then delta / 700 else delta / 2
  let (rest, k) := shrink (halved + halved / count) 0
  k + 36 * rest / (rest + 38)

/-! ## Encoding -/

def encodeNumber (bias k n : Nat) : List Char :=
  let t := threshold bias k
  if n < t then [digitChar n]
  else digitChar (t + (n - t) % (36 - t)) :: encodeNumber bias (k + 36) ((n - t) / (36 - t))
termination_by n
decreasing_by
  have low : 1 ≤ threshold bias k := Nat.le_max_left ..
  have div := Nat.div_le_self (n - threshold bias k) (36 - threshold bias k)
  omega

/-- The digits so far, and what the next insertion counts from. -/
structure Insertion where
  digits : List Char
  delta : Nat
  bias : Nat
  placed : Nat

def Insertion.pass (basic point : Nat) (i : Insertion) (c : Char) : Insertion :=
  if c.toNat < point then { i with delta := i.delta + 1 }
  else if c.toNat = point then
    { digits := i.digits ++ encodeNumber i.bias 36 i.delta
      delta := 0
      bias := adapt i.delta (i.placed + 1) (i.placed == basic)
      placed := i.placed + 1 }
  else i

def insertAll (basic : Nat) (text : List Char) : Nat → List Nat → Insertion → List Char
  | _, [], i => i.digits
  | start, point :: points, i =>
    let counted := { i with delta := i.delta + (point - start) * (i.placed + 1) }
    let done := text.foldl (Insertion.pass basic point) counted
    insertAll basic text (point + 1) points { done with delta := done.delta + 1 }

def isAscii (c : Char) : Bool := c.toNat < 0x80

/-- The code points beyond ASCII, ascending and without repetitions. -/
def points (text : List Char) : List Nat :=
  ((text.filter (!isAscii ·)).map Char.toNat).mergeSort.eraseDups

def encode (text : List Char) : List Char :=
  let basic := text.filter isAscii
  let lead := if basic.isEmpty then [] else basic ++ ['-']
  lead ++ insertAll basic.length text 0x80 (points text) ⟨[], 0, 72, basic.length⟩

/-! ## Decoding -/

def maxNumber : Nat := Nat.pow 2 32 - 1

/-- Reads one number from position `k` on. -/
def decodeNumber (bias : Nat) : Nat → Nat → Nat → List Char → Option (Nat × List Char)
  | _, _, _, [] => none
  | k, weight, value, c :: rest =>
    match digitValue? c with
    | none => none
    | some d =>
      let value := value + d * weight
      let t := threshold bias k
      let next := weight * (36 - t)
      if maxNumber < value then none
      else if d < t then some (value, rest)
      else if maxNumber < next then none
      else decodeNumber bias (k + 36) next value rest

/-- Reads insertions up to the end, of which there are at most `bound`. -/
def decodeFrom : Nat → Nat → Nat → Nat → List Char → List Char → Option (List Char)
  | _, _, _, _, text, [] => some text
  | 0, _, _, _, _, _ => none
  | bound + 1, point, index, bias, text, digits =>
    match decodeNumber bias 36 1 0 digits with
    | none => none
    | some (delta, rest) =>
      let count := text.length + 1
      let index := index + delta
      let point := point + index / count
      let place := index % count
      if point.isValidChar then
        let text := text.take place ++ Char.ofNat point :: text.drop place
        decodeFrom bound point (place + 1) (adapt delta count (delta == index)) text rest
      else none

/-- The text before the last hyphen, and what follows it. A hyphen with nothing before it is no
mark. -/
def splitLead (digits : List Char) : List Char × List Char :=
  let tail := (digits.reverse.takeWhile (· != '-')).reverse
  let lead := (digits.take (digits.length - tail.length)).dropLast
  if lead.isEmpty then ([], digits) else (lead, tail)

def decode (digits : List Char) : Option (List Char) :=
  let (basic, tail) := splitLead digits
  if basic.all isAscii then decodeFrom tail.length 0x80 0 72 basic tail else none

end SchemaTypes.Punycode
