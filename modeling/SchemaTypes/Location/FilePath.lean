/-!
File paths as text. The text is kept as written; what a path means goes by its components, which
leave out repeated and trailing slashes and every `.` but a leading one.
-/
namespace SchemaTypes.FilePath

def isSlash (c : Char) : Bool := c == '/'

/-- The pieces of a text between slashes; a text without slashes is one piece. -/
def pieces : List Char → List (List Char)
  | [] => [[]]
  | c :: rest =>
    match isSlash c, pieces rest with
    | true, ps => [] :: ps
    | false, p :: ps => (c :: p) :: ps
    | false, [] => [[c]]

inductive Component where
  | root
  /-- A leading `.`. -/
  | here
  | parent
  | name (text : String)
  deriving DecidableEq, Repr

/-- A piece that stands for nothing behind the start of a path. -/
def isIdle (piece : List Char) : Bool := piece.isEmpty || piece == ['.']

def Component.ofPiece (piece : List Char) : Component :=
  if piece = ['.', '.'] then .parent else .name (String.ofList piece)

def isAbsoluteText : List Char → Bool
  | [] => false
  | c :: _ => isSlash c

/-- The first piece of the text is a `.` that counts as a component. -/
def startsHere : List Char → Bool
  | ['.'] => true
  | '.' :: c :: _ => isSlash c
  | _ => false

def isAbsolute (path : String) : Bool := isAbsoluteText path.toList

def components (path : String) : List Component :=
  let text := path.toList
  let start :=
    if isAbsoluteText text then [Component.root]
    else if startsHere text then [Component.here]
    else []
  start ++ ((pieces text).filter (!isIdle ·)).map Component.ofPiece

def same (a b : String) : Bool := components a == components b

/-- The last component, if it is a name. -/
def fileName? (path : String) : Option String :=
  match (components path).getLast? with
  | some (.name text) => some text
  | _ => none

/-! ## Parent and join -/

/-- Drops idle pieces, and the slashes in front of them, from the end of a reversed text. -/
def trimIdle : List Char → List Char
  | [] => []
  | '/' :: rest => trimIdle rest
  | '.' :: '/' :: rest => trimIdle rest
  | ['.'] => []
  | rest => rest

/-- Drops the last piece, and the slash in front of it, from a reversed text. -/
def dropPiece (reversed : List Char) : List Char :=
  (reversed.dropWhile (!isSlash ·)).drop 1

/-- The path without its last component; a root, like the empty path, has no parent. -/
def parent? (path : String) : Option String :=
  let text := path.toList
  let fixed := if isAbsoluteText text || startsHere text then 1 else 0
  match trimIdle (text.drop fixed).reverse with
  | [] => if startsHere text then some "" else none
  | body => some (String.ofList (text.take fixed ++ (trimIdle (dropPiece body)).reverse))

theorem length_trimIdle_le (reversed : List Char) :
    (trimIdle reversed).length ≤ reversed.length := by
  fun_induction trimIdle reversed <;> simp <;> omega

theorem length_dropPiece_lt {reversed : List Char} (h : reversed ≠ []) :
    (dropPiece reversed).length < reversed.length := by
  have shorter := (List.dropWhile_suffix (l := reversed) (!isSlash ·)).length_le
  have positive := List.length_pos_iff.mpr h
  simp only [dropPiece, List.length_drop]
  omega

theorem length_lt_of_parent? {path dir : String} (h : parent? path = some dir) :
    dir.length < path.length := by
  rw [← String.length_toList, ← String.length_toList]
  unfold parent? at h
  extract_lets text fixed at h
  split at h
  · split at h
    · cases h
      cases h : path.toList <;> simp_all [startsHere, text]
    · contradiction
  · rename_i body nonempty
    cases h
    have ways := length_trimIdle_le (dropPiece (trimIdle (text.drop fixed).reverse))
    have piece := length_dropPiece_lt nonempty
    have trimmed := length_trimIdle_le (text.drop fixed).reverse
    simp only [List.length_reverse, List.length_drop] at trimmed
    simp only [String.toList_ofList, List.length_append, List.length_take, List.length_reverse]
    show _ < text.length
    omega

/-- `path` as seen from the directory `dir`. -/
def join (dir path : String) : String :=
  if isAbsolute path then path
  else if dir.isEmpty || isSlash (dir.toList.getLastD '/') then dir ++ path
  else dir ++ "/" ++ path

end SchemaTypes.FilePath
