import Upkeep.Fault
import Upkeep.Path
import Upkeep.SortedMap

/-! The files and directories that a program sees. A disk maps places to entries; a place is
reached by following a path name by name, and every name on the way has to be a directory.
Relative paths start at the working directory; its tree and that of the absolute paths are kept
apart, and climbing above the top of either stays there. -/
namespace Upkeep

/-- Contents are compared byte by byte, also where a library brings a test of its own. -/
instance decidableEqByteArray : DecidableEq ByteArray :=
  ByteArray.decEq

/-- What a place holds. -/
inductive Entry where
  | directory
  | file (mode : Nat) (content : ByteArray)
  deriving DecidableEq

/-- A place: whether it lies in the tree of absolute paths, and the names that lead to it. -/
structure Location where
  absolute : Bool
  names : List String
  deriving DecidableEq, Repr

namespace Location

/-- The name of a place in listings. -/
def key (l : Location) : String :=
  (if l.absolute then "/" else "") ++ "/".intercalate l.names

/-- The place above. -/
def above (l : Location) : Location :=
  { l with names := l.names.dropLast }

/-- The place under a name. -/
def child (l : Location) (name : String) : Location :=
  { l with names := l.names ++ [name] }

end Location

/-- The files and directories, by the names of their places. The tops of both trees are always
directories and have no entry. -/
structure Disk where
  entries : SortedMap Entry
  deriving Inhabited

namespace Disk

instance : EmptyCollection Disk := ⟨⟨∅⟩⟩

/-- What a place holds, if anything. -/
def get? (d : Disk) (l : Location) : Option Entry :=
  if l.names = [] then some .directory else d.entries.get? l.key

/-- Puts an entry at a place. -/
def put (d : Disk) (l : Location) (e : Entry) : Disk :=
  ⟨d.entries.insert l.key e⟩

/-- Removes what a place holds. -/
def clear (d : Disk) (l : Location) : Disk :=
  ⟨d.entries.erase l.key⟩

/-- How long a name may be, in bytes. -/
def nameLimit : Nat := 255

/-- How long a path may be, in bytes. -/
def pathLimit : Nat := 4095

/-- The system takes no path that is empty, too long, or holds U+0000. -/
def accept (p : Path) : Except Fault Unit :=
  if p.text.toList.contains '\x00' then .error .nulInName
  else if p.text.isEmpty then .error .noSuchFile
  else if pathLimit < p.text.utf8ByteSize then .error .nameTooLong
  else .ok ()

/-- The place one name further, which has to exist. -/
def step (d : Disk) (l : Location) (name : String) : Except Fault Location :=
  match d.get? l with
  | some .directory =>
    if name = ".." then .ok l.above
    else if nameLimit < name.utf8ByteSize then .error .nameTooLong
    else if (d.get? (l.child name)).isSome then .ok (l.child name)
    else .error .noSuchFile
  | some (.file _ _) => .error .notDirectory
  | none => .error .noSuchFile

/-- Follows names from a place; all of them have to exist. -/
def walk (d : Disk) (l : Location) (names : List String) : Except Fault Location :=
  names.foldlM d.step l

/-- The names of a path that lead anywhere. -/
def stepsOf (p : Path) : List String :=
  ((p.text.toList.splitOn '/').filter fun piece => !Path.isEmptyPiece piece).map String.ofList

/-- Whether a path ends in a slash or a dot, so that it can only name a directory. -/
def endsOpen (p : Path) : Bool :=
  match (p.text.toList.splitOn '/').getLast? with
  | some piece => Path.isEmptyPiece piece
  | none => true

/-- Where a path starts. -/
def startOf (p : Path) : Location :=
  ⟨p.isAbsolute, []⟩

/-- The place that a path names. -/
def resolve (d : Disk) (p : Path) : Except Fault Location := do
  accept p
  let l ← d.walk (startOf p) (stepsOf p)
  match d.get? l with
  | some (.file _ _) => if endsOpen p then .error .notDirectory else .ok l
  | _ => .ok l

/-- Whether a path names a directory. -/
def isDirectory (d : Disk) (p : Path) : Bool :=
  match d.resolve p with
  | .ok l => d.get? l == some .directory
  | .error _ => false

/-- The content of the file that a path names. -/
def read (d : Disk) (p : Path) : Except Fault ByteArray := do
  let l ← d.resolve p
  match d.get? l with
  | some (.file _ content) => return content
  | some .directory => throw .isDirectory
  | none => throw .noSuchFile

/-- The content of a file as text. -/
def readText (d : Disk) (p : Path) : Except Fault String := do
  match String.fromUTF8? (← d.read p) with
  | some text => return text
  | none => throw .notText

/-- The directory in which a path makes or replaces an entry, and the name of the entry. There
is no name where the path ends in dots or leads to the top. -/
def resolveNew (d : Disk) (p : Path) : Except Fault (Location × Option String) := do
  accept p
  let pieces := (p.text.toList.splitOn '/').filter (· != [])
  match pieces.getLast? with
  | none => return (startOf p, none)
  | some last =>
    let above := (pieces.dropLast.filter fun piece => !Path.isEmptyPiece piece).map String.ofList
    let l ← d.walk (startOf p) above
    match d.get? l with
    | some .directory =>
      let name := String.ofList last
      if last = ['.'] || last = ['.', '.'] then return (l, none)
      else if nameLimit < name.utf8ByteSize then throw .nameTooLong
      else return (l, some name)
    | some (.file _ _) => throw .notDirectory
    | none => throw .noSuchFile

/-- Makes a directory in a directory that exists. -/
def makeDirectory (d : Disk) (p : Path) : Except Fault Disk := do
  match ← d.resolveNew p with
  | (_, none) => throw .fileExists
  | (l, some name) =>
    if (d.get? (l.child name)).isSome then throw .fileExists
    else return d.put (l.child name) .directory

/-- Makes a directory and those above it that are missing, as far as that is possible. The fuel
is the number of directories that may have to be made. -/
def makeDirectoriesWith : Nat → Disk → Path → Disk × Except Fault Unit
  | 0, d, _ => (d, .error .noSuchFile)
  | fuel + 1, d, p =>
    if p.text.isEmpty then (d, .ok ())
    else
      match d.makeDirectory p with
      | .ok d => (d, .ok ())
      | .error .noSuchFile =>
        match p.parent? with
        | none => (d, .error .noSuchFile)
        | some parent =>
          match makeDirectoriesWith fuel d parent with
          | (d, .error fault) => (d, .error fault)
          | (d, .ok ()) =>
            match d.makeDirectory p with
            | .ok d => (d, .ok ())
            | .error fault => if d.isDirectory p then (d, .ok ()) else (d, .error fault)
      | .error fault => if d.isDirectory p then (d, .ok ()) else (d, .error fault)

/-- Makes a directory and those above it that are missing. -/
def makeDirectories (d : Disk) (p : Path) : Disk × Except Fault Unit :=
  makeDirectoriesWith (p.text.length + 1) d p

end Disk

end Upkeep
