import Upkeep.Program

/-! Rehearsals: running programs with stand-ins for the service manager, the status tool and the
store of flags. Any of them can be told to fail, and a record is kept of how they are called.
Files are real, that is, those of a disk. -/
namespace Upkeep

/-- Where the flags of a rehearsal are kept. -/
inductive FlagStore where
  | memory (flags : Flags)
  | file (file : FlagFile)

namespace FlagStore

/-- Whether a flag is set. -/
def get (s : FlagStore) (name : String) (disk : Disk) : Except FlagFault Bool :=
  match s with
  | memory flags => .ok (flags.isSet name)
  | file f => f.get name disk

/-- The names of the flags that are set. -/
def active (s : FlagStore) (disk : Disk) : Except FlagFault (List String) :=
  match s with
  | memory flags => .ok flags.active
  | file f => f.active disk

/-- Gives a flag a value. -/
def set (s : FlagStore) (now : Timestamp) (name : String) (value : Bool) (disk : Disk) :
    FlagStore × Disk × Except FlagFault Unit :=
  match s with
  | memory flags => (memory (flags.insert name value), disk, .ok ())
  | file f =>
    let (disk, result) := f.set now name value disk
    (file f, disk, result.map fun _ => ())

/-- How far the maintenance has come. -/
def progress (s : FlagStore) (disk : Disk) : Except FlagFault Progress :=
  (s.get Flags.configured disk).map .ofFlag

end FlagStore

/-- What fails in a rehearsal. -/
structure FailurePlan where
  /-- How a reload of the units fails. -/
  reload : Option ServiceFault := none
  /-- How the restart of a unit fails. -/
  restart : String → Option ServiceFault := fun _ => none
  /-- How the report of a state fails. -/
  report : WorkloadState → Option StatusFault := fun _ => none
  /-- How asking for a flag fails. -/
  getFlag : String → Option FlagFault := fun _ => none
  /-- How setting a flag fails. -/
  setFlag : String → Option FlagFault := fun _ => none

/-- A call of a stand-in. -/
inductive StandInCall where
  | get (flag : String)
  | set (flag : String) (value : Bool)
  | reloadUnits
  | restart (unit : String)
  | report (state : WorkloadState) (message : String)
  deriving DecidableEq, Repr

/-- The state of a rehearsal. -/
structure Rehearsal where
  disk : Disk := ∅
  flags : FlagStore
  plan : FailurePlan := {}
  now : Timestamp
  /-- The calls so far. -/
  calls : List StandInCall := []
  /-- What has been counted so far. -/
  metrics : Metrics := ∅

namespace Rehearsal

/-- Records a call. -/
def record (h : Rehearsal) (call : StandInCall) : Rehearsal :=
  { h with calls := h.calls ++ [call] }

/-- The answer of a stand-in that fails as planned or not at all. -/
def planned {ε : Type} : Option ε → Except ε Unit
  | some fault => .error fault
  | none => .ok ()

/-- Gives a flag a value, unless that is planned to fail. -/
def setFlag (h : Rehearsal) (name : String) (value : Bool) : Rehearsal × Except FlagFault Unit :=
  match h.plan.setFlag name with
  | some fault => (h, .error fault)
  | none =>
    let (flags, disk, result) := h.flags.set h.now name value h.disk
    ({ h with flags, disk }, result)

/-- Whether a flag is set, unless asking is planned to fail. -/
def getFlag (h : Rehearsal) (name : String) : Except FlagFault Bool :=
  match h.plan.getFlag name with
  | some fault => .error fault
  | none => h.flags.get name h.disk

/-- Replaces a file. -/
def write (h : Rehearsal) (path : Path) (content : ByteArray) (mode : Nat) :
    Rehearsal × Except Fault Unit :=
  let (disk, result) := h.disk.replace path content mode
  ({ h with disk }, result)

/-- Answers a request. -/
def answer (r : Request) (h : Rehearsal) : Rehearsal × Answer r :=
  match r with
  | .read path => (h, h.disk.read path)
  | .write path content mode => h.write path content mode
  | .getFlag name => (h.record (.get name), h.getFlag name)
  | .setFlag name value => (h.record (.set name value)).setFlag name value
  | .reloadUnits => (h.record .reloadUnits, planned h.plan.reload)
  | .restart unit => (h.record (.restart unit), planned (h.plan.restart unit))
  | .report state message => (h.record (.report state message), planned (h.plan.report state))
  | .log _ => (h, ())
  | .count counter => ({ h with metrics := h.metrics.count counter }, ())
  | .observeDuration => ({ h with metrics := h.metrics.observe (.ofDecimal false 0 0) }, ())

/-- A rehearsal as a host of programs. -/
def host : Host Rehearsal := fun r h =>
  let (h, answer) := answer r h
  (answer, h)

end Rehearsal

end Upkeep
