/-! Paths as texts. Joining keeps what is written: nothing is normalised, a right side that
starts at the root replaces the left one, and no second slash is put where one stands. The
components of a path leave out what means nothing: repeated slashes and inner dots. -/
namespace Upkeep

/-- A path, as it is written. -/
structure Path where
  /-- The text. -/
  text : String
  deriving DecidableEq, Repr, Inhabited

/-- A component of a path. -/
inductive Component where
  /-- The slash at the start. -/
  | root
  /-- A dot at the start. -/
  | here
  /-- Two dots. -/
  | up
  /-- A name. -/
  | name (name : String)
  deriving DecidableEq, Repr

namespace Component

/-- A component as it is written. -/
def text : Component → String
  | root => "/"
  | here => "."
  | up => ".."
  | .name text => text

end Component

namespace Path

/-- Whether a path starts at the root. -/
def isAbsolute (p : Path) : Bool :=
  p.text.toList.head? == some '/'

/-- One path continued by another. -/
def join (left right : Path) : Path :=
  if right.isAbsolute then right
  else if left.text.isEmpty || left.text.toList.getLast? == some '/' then ⟨left.text ++ right.text⟩
  else ⟨left.text ++ "/" ++ right.text⟩

/-- One path continued by a text. -/
def joinText (left : Path) (right : String) : Path :=
  left.join ⟨right⟩

/-- The mark a path starts with (a slash, or a dot that is a component of its own) and the
pieces between the slashes of the rest. -/
def split (p : Path) : List Char × List (List Char) :=
  match p.text.toList with
  | '/' :: rest => (['/'], rest.splitOn '/')
  | ['.'] => (['.'], [[]])
  | '.' :: '/' :: rest => (['.'], ('/' :: rest).splitOn '/')
  | s => ([], s.splitOn '/')

/-- Pieces that say nothing: empty ones and dots. -/
def isEmptyPiece (piece : List Char) : Bool :=
  piece == [] || piece == ['.']

/-- The components of a path. -/
def components (p : Path) : List Component :=
  let (start, pieces) := p.split
  (match start with
    | ['/'] => [.root]
    | ['.'] => [.here]
    | _ => []) ++
  (pieces.filter fun piece => !isEmptyPiece piece).map fun piece =>
    if piece == ['.', '.'] then .up else .name (String.ofList piece)

/-- The path without its last component, as far as it is written. The root has none above it. -/
def parent? (p : Path) : Option Path :=
  let (start, pieces) := p.split
  match pieces.reverse.dropWhile isEmptyPiece with
  | _ :: above =>
    let above := (above.dropWhile isEmptyPiece).reverse
    some ⟨String.ofList (start ++ ['/'].intercalate above)⟩
  | [] => if start == ['.'] then some ⟨""⟩ else none

/-- The directory that holds what a path names; the current one where the path names none. -/
def directory (p : Path) : Path :=
  match p.parent? with
  | some ⟨""⟩ => ⟨"."⟩
  | some parent => parent
  | none => ⟨"."⟩

end Path

end Upkeep
