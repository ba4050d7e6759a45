import Upkeep.Program
import Upkeep.Sha256

/-! Artifacts: rendered files. One is written only when the file on disk does not hold exactly
its bytes; a file that is not there never does. -/
namespace Upkeep

/-- A rendered file and where it belongs. -/
structure Artifact where
  path : Path
  content : String
  mode : Nat
  deriving DecidableEq, Repr

/-- Why an artifact could not be compared or written. -/
inductive ArtifactFault where
  | unreadable (path : Path) (fault : Fault)
  | unwritable (path : Path) (fault : Fault)
  deriving DecidableEq, Repr

namespace ArtifactFault

/-- The text that a user sees for a fault. -/
def message : ArtifactFault → String
  | unreadable path fault => s!"Failed to read current artifact {path.text}: {fault.message}"
  | unwritable path fault => s!"Failed to write artifact {path.text}: {fault.message}"

/-- The messages of the faults behind a fault. -/
def causes : ArtifactFault → List String
  | unreadable _ fault | unwritable _ fault => [fault.message]

end ArtifactFault

namespace Artifact

/-- The bytes that the file shall hold. -/
def bytes (a : Artifact) : ByteArray :=
  a.content.toUTF8

/-- The bytes of a file, or nothing where there is no file. -/
def current? (path : Path) : Except Fault ByteArray → Except ArtifactFault (Option ByteArray)
  | .ok content => .ok (some content)
  | .error .noSuchFile => .ok none
  | .error fault => .error (.unreadable path fault)

section

variable {path : Path} {answer : Except Fault ByteArray} {bytes : ByteArray}

theorem current?_eq_some : current? path answer = .ok (some bytes) ↔ answer = .ok bytes := by
  unfold current?
  split <;> simp

theorem current?_eq_none : current? path answer = .ok none ↔ answer = .error .noSuchFile := by
  unfold current?
  split
  · simp
  · simp
  · rename_i other
    simpa using other

theorem current?_refused {fault : Fault} (other : fault ≠ .noSuchFile) :
    current? path (.error fault) = .error (.unreadable path fault) := by
  unfold current?
  split <;> simp_all

end

/-- Reads the file as it is. -/
def readCurrent (a : Artifact) : Action ArtifactFault (Option ByteArray) :=
  ExceptT.mk do return current? a.path (← Program.request (.read a.path))

/-- Whether the file does not hold what it shall. -/
def isStale (a : Artifact) : Action ArtifactFault Bool := do
  return (← a.readCurrent) != some a.bytes

/-- Replaces the file. -/
def write (a : Artifact) : Action ArtifactFault Unit :=
  Action.mapFault (.unwritable a.path)
    (ExceptT.mk (Program.request (.write a.path a.bytes a.mode)))

/-- Replaces the file unless it holds what it shall, and tells whether that was done. Only digests
are logged, because the content may hold credentials. -/
def apply (a : Artifact) : Action ArtifactFault Bool := do
  let current ← a.readCurrent
  if current = some a.bytes then
    Action.log (.artifactUnchanged a.path)
    return false
  else
    Action.log (.artifactDiffers a.path (current.map Sha256.hex) (Sha256.hex a.bytes))
    a.write
    Action.count .artifactsWritten
    Action.log (.artifactWritten a.path)
    return true

end Artifact

end Upkeep
