/-!
Text in pieces: cut at a character, and put together again with one.
-/
namespace SchemaTypes.Text

/-- The pieces between marks; the whole text if there is no mark. -/
def pieces (mark : Char) : List Char → List (List Char)
  | [] => [[]]
  | c :: rest =>
    match pieces mark rest with
    | [] => [[c]]
    | piece :: more => if c = mark then [] :: piece :: more else (c :: piece) :: more

def join (mark : Char) : List (List Char) → List Char
  | [] => []
  | [piece] => piece
  | piece :: rest => piece ++ mark :: join mark rest

end SchemaTypes.Text
