import SchemaTypes.Location.Domain.Direction
import SchemaTypes.Location.Domain.Folding
import SchemaTypes.Location.Domain.Joining
import SchemaTypes.Location.Punycode
import SchemaTypes.Text.Normal

/-!
The ASCII form of a domain name. Characters are folded and put in normal form, labels with others
than ASCII are written in Punycode, and a label in Punycode must stand for one that could have been
given as it reads.
-/
namespace SchemaTypes.Domain

def isForbidden (c : Char) : Bool :=
  c.toNat ≤ 0x20 || c.toNat == 0x7F
    || ['%', '#', '/', ':', '<', '>', '?', '@', '[', '\\', ']', '^', '|'].contains c

def marker : List Char := ['x', 'n', '-', '-']

/-- A label beyond ASCII has at most this many characters. -/
def maxLength : Nat := 1000

def maxEncoded : Nat := 2000

/-- A label of a name: as it is written in ASCII, and the text it stands for. -/
structure Label where
  ascii : List Char
  text : List Char
  deriving DecidableEq, Repr

namespace Label

/-- A text beyond ASCII that a label can stand for. -/
def isProper (text : List Char) : Bool :=
  !text.any isForbidden && !text.head?.any Text.isMark && joinersStand [] text
    && text.length ≤ maxLength

def isSettled (text : List Char) : Bool :=
  text.all (fun c => fold? c = some [c]) && Text.normalForm text = text

/-- The label whose Punycode, behind the marker, is `code`. -/
def ofPunycode? (code : List Char) : Option Label :=
  if code.getLast?.all (· = '-') || maxEncoded < code.length then none
  else
    (Punycode.decode code).bind fun text =>
      if isSettled text && isProper text then some ⟨marker ++ code, text⟩ else none

def ofText? (text : List Char) : Option Label :=
  if marker.isPrefixOf text then
    if text.all isAscii then ofPunycode? (text.drop marker.length) else none
  else if text.all isAscii then
    if text.any isForbidden then none else some ⟨text, text⟩
  else if isProper text then some ⟨marker ++ Punycode.encode text, text⟩
  else none

end Label

/-- The labels of a name. If one of them runs from right to left, all have to suit that. -/
def labels? (name : List Char) : Option (List Label) := do
  let folded ← name.mapM fold?
  let labels ← (Text.pieces '.' (Text.normalForm folded.flatten)).mapM Label.ofText?
  if labels.any (runsRight ·.text) && !labels.all (isDirected ·.text) then none
  else some labels

def toAscii (name : List Char) : Option (List Char) :=
  (labels? name).map fun labels => Text.join '.' (labels.map (·.ascii))

end SchemaTypes.Domain
