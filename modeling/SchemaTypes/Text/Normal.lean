import SchemaTypes.Text.CombiningClass
import SchemaTypes.Text.Composite

/-!
The normal form of text: marks in the order of their classes, and composites wherever there is one.
Characters that normal form replaces by a single other one, or always by their parts, are taken to
be replaced already.
-/
namespace SchemaTypes.Text

/-- Puts a mark behind those whose class is not above its own. -/
def insertMark (mark : Char) : List Char → List Char
  | [] => [mark]
  | c :: rest =>
    if combiningClass c ≤ combiningClass mark then c :: insertMark mark rest
    else mark :: c :: rest

/-- Orders the marks between characters that start anew; `marks` are those passed last. -/
def order (marks : List Char) : List Char → List Char
  | [] => marks
  | c :: rest =>
    if combiningClass c = 0 then marks ++ c :: order [] rest else order (insertMark c marks) rest

/-- Joins what follows `starter` to it; `kept` are the marks in between, the latest first. A
character is out of reach behind a mark whose class is not below its own. -/
def composeOnto (starter : Char) (kept : List Char) : List Char → List Char
  | [] => starter :: kept.reverse
  | c :: rest =>
    let reached := kept.head?.all (combiningClass · < combiningClass c)
    match if reached then compose? starter c else none with
    | some whole => composeOnto whole kept rest
    | none =>
      if combiningClass c = 0 then starter :: kept.reverse ++ composeOnto c [] rest
      else composeOnto starter (c :: kept) rest

def compose : List Char → List Char
  | [] => []
  | c :: rest => if combiningClass c = 0 then composeOnto c [] rest else c :: compose rest

def normalForm (text : List Char) : List Char := compose (order [] (text.flatMap parts))

end SchemaTypes.Text
