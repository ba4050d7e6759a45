import Upkeep.Disk.Replace
import Upkeep.Flags.Document

/-! Flags kept in a file. A file that is not there holds none; one that cannot be read or that
holds anything but a document of flags is an error, and then nothing is ever written over it. -/
namespace Upkeep

/-- Why flags could not be read or changed. -/
inductive FlagFault where
  | unreadable (path : Path) (fault : Fault)
  | unparsable (path : Path)
  | unwritable (path : Path) (fault : Fault)
  /-- There is no store to speak of. -/
  | unavailable
  deriving DecidableEq, Repr

namespace FlagFault

/-- The text that a user sees for a fault. -/
def message : FlagFault → String
  | unreadable path _ => s!"Failed to read flag store {path.text}"
  | unparsable path => s!"Failed to parse flag store {path.text}"
  | unwritable path _ => s!"Failed to write flag store {path.text}"
  | unavailable => "flag store unavailable"

/-- The messages of a fault and of the faults behind it, the outermost first. -/
def chain (fault : FlagFault) : List String :=
  fault.message ::
    match fault with
    | unreadable _ fault | unwritable _ fault => [fault.message]
    | _ => []

end FlagFault

/-- A file that keeps flags. -/
structure FlagFile where
  /-- Where the file is. -/
  path : Path
  deriving DecidableEq, Repr

/-- What setting a flag did. -/
inductive FlagChange where
  /-- The flag had the value already, and nothing was written. -/
  | alreadySet
  /-- The flag has been written. -/
  | persisted
  deriving DecidableEq, Repr

namespace FlagFile

/-- The mode of the file, which only its owner can read. -/
def mode : Nat := 0o600

/-- The document in the file. -/
def load (f : FlagFile) (disk : Disk) : Except FlagFault Flags.Document :=
  match disk.readText f.path with
  | .ok text =>
    match Flags.Document.read? text with
    | some document => .ok document
    | none => .error (.unparsable f.path)
  | .error .noSuchFile => .ok .empty
  | .error fault => .error (.unreadable f.path fault)

/-- Whether a flag is set. -/
def get (f : FlagFile) (name : String) (disk : Disk) : Except FlagFault Bool :=
  (f.load disk).map fun document => document.flags.isSet name

/-- The names of the flags that are set, in ascending order. -/
def active (f : FlagFile) (disk : Disk) : Except FlagFault (List String) :=
  (f.load disk).map fun document => document.flags.active

/-- Gives a flag a value. -/
def set (f : FlagFile) (now : Timestamp) (name : String) (value : Bool) (disk : Disk) :
    Disk × Except FlagFault FlagChange :=
  match f.load disk with
  | .error fault => (disk, .error fault)
  | .ok document =>
    if document.flags.get? name = some value then (disk, .ok .alreadySet)
    else
      let changed : Flags.Document := ⟨document.flags.insert name value, some now⟩
      match disk.replace f.path changed.print.toUTF8 mode with
      | (disk, .ok ()) => (disk, .ok .persisted)
      | (disk, .error fault) => (disk, .error (.unwritable f.path fault))

end FlagFile

end Upkeep
