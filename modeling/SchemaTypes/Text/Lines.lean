/-!
The lines of a text. A line ends at a line feed, which takes a carriage return before it along; what
follows the last line feed is a line of its own unless it is empty.
-/
namespace SchemaTypes.Text

def dropReturn (line : List Char) : List Char :=
  if line.getLast? = some '\r' then line.dropLast else line

/-- The lines, the first of which starts with `before` in reverse. -/
def linesFrom (before : List Char) : List Char → List (List Char)
  | [] => if before.isEmpty then [] else [before.reverse]
  | c :: rest =>
    if c = '\n' then dropReturn before.reverse :: linesFrom [] rest
    else linesFrom (c :: before) rest

def lines (s : String) : List String := (linesFrom [] s.toList).map String.ofList

end SchemaTypes.Text
