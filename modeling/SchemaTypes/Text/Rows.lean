import SchemaTypes.Text.Pieces

/-!
Tables written as rows of text. A row has cells with blanks between them; a cell has hexadecimal
numbers with plus signs between them, or is an equals sign and holds none.
-/
namespace SchemaTypes.Text.Rows

/-- The value of a digit; letters are capitals. -/
def digit (c : Char) : Nat := if c ≤ '9' then c.toNat - 0x30 else c.toNat - 0x41 + 10

def number (digits : List Char) : Nat := digits.foldl (fun value c => value * 16 + digit c) 0

def cell (text : List Char) : List Nat :=
  if text = ['='] then [] else (pieces '+' text).map number

def cells (row : String) : List (List Nat) := (pieces ' ' row.toList).map cell

/-- All numbers of a row. -/
def numbers (row : String) : List Nat := (cells row).flatten

end SchemaTypes.Text.Rows
