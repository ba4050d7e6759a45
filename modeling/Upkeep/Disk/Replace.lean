import Upkeep.Disk.Basic

/-! Replacing a file in one go. The new content is written to a temporary file beside the
target, which gets the target's mode and is then renamed over it, so nobody ever sees a target
that is half written. When a step fails, the temporary file is removed. -/
namespace Upkeep.Disk

/-- The steps of a replacement. -/
inductive ReplaceStep where
  | makeDirectories
  | createTemporary
  | write
  | setMode
  | rename
  deriving DecidableEq, Repr

/-- The mode of a temporary file, which only its owner can read. -/
def temporaryMode : Nat := 0o600

/-- What a file keeps of a mode: its last twelve bits. -/
def keptMode (mode : Nat) : Nat :=
  mode % 0o10000

/-- The name of a temporary file. -/
def temporaryName (n : Nat) : String :=
  s!".{n}.tmp"

/-- The first name for a temporary file in a directory that is free and is not the target's.
Among two names more than the disk has entries there is one. -/
def freshName (d : Disk) (l : Location) (target : String) : String :=
  let candidates := (List.range (d.entries.size + 2)).map temporaryName
  (candidates.find? fun name => name != target && (d.get? (l.child name)).isNone).getD (temporaryName 0)

/-- The place of the temporary file for a target in a directory. -/
def temporary (d : Disk) (l : Location) (p : Path) : Location :=
  l.child (d.freshName l ((stepsOf p).getLastD ""))

/-- Whether a file can be renamed to a path, and the place it then has. Renaming finds fault with
U+0000 in the path as an argument, not as a name. -/
def renameTarget (d : Disk) (p : Path) : Except Fault Location := do
  let asArgument : Fault → Fault
    | .nulInName => .invalidArgument
    | fault => fault
  match ← (d.resolveNew p).mapError asArgument with
  | (_, none) => throw .busy
  | (l, some name) =>
    if p.text.toList.getLast? == some '/' then throw .notDirectory
    else if d.get? (l.child name) == some .directory then throw .isDirectory
    else return l.child name

/-- Renames the file at a place to a path, over the file that is there. -/
def rename (d : Disk) (source : Location) (p : Path) : Except Fault Disk := do
  let target ← d.renameTarget p
  match d.get? source with
  | some e => return (d.clear source).put target e
  | none => throw .noSuchFile

/-- The disk when the temporary file holds this much. -/
def withTemporary (d : Disk) (t : Location) (mode : Nat) (content : ByteArray) : Disk :=
  d.put t (.file mode content)

/-- Replaces what a path names by a file with the given content and mode, while `refuse` says
which steps the system refuses on top of the disk's own reasons. -/
def replaceWith (refuse : ReplaceStep → Option Fault) (d : Disk) (p : Path) (content : ByteArray)
    (mode : Nat) : Disk × Except Fault Unit :=
  match refuse .makeDirectories, d.makeDirectories p.directory with
  | some fault, _ => (d, .error fault)
  | none, (d, .error fault) => (d, .error fault)
  | none, (d, .ok ()) =>
    match refuse .createTemporary, d.resolve p.directory with
    | some fault, _ => (d, .error fault)
    | none, .error fault => (d, .error fault)
    | none, .ok l =>
      let t := d.temporary l p
      let created := d.withTemporary t temporaryMode .empty
      let written := created.withTemporary t temporaryMode content
      let ready := written.withTemporary t (keptMode mode) content
      match refuse .write, refuse .setMode, refuse .rename, ready.rename t p with
      | some fault, _, _, _ => (created.clear t, .error fault)
      | none, some fault, _, _ => (written.clear t, .error fault)
      | none, none, some fault, _ => (ready.clear t, .error fault)
      | none, none, none, .error fault => (ready.clear t, .error fault)
      | none, none, none, .ok d => (d, .ok ())

/-- Replaces what a path names by a file with the given content and mode. -/
def replace (d : Disk) (p : Path) (content : ByteArray) (mode : Nat) : Disk × Except Fault Unit :=
  replaceWith (fun _ => none) d p content mode

end Upkeep.Disk
