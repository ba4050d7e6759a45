import Std.Time.Format
import Upkeep.Log.Event
import Upkeep.Run

/-! The program. It looks at the files that a command may read, runs the command in the world that
they make up, and then writes what the command changed. No other programs are started from here,
so a command that needs one finds none. -/
namespace Upkeep

/-- The files that a command may read or replace. -/
def CommandLine.paths (c : CommandLine) (process : Environment) : List Path :=
  let setup := c.setup process
  let inputs : Inputs := match c.command with
    | .hook _ _ inputs => inputs
    | .render inputs => inputs
    | .flags => {}
  let database := match inputs.database with
    | some (.file path) => some path
    | _ => none
  [setup.stateFile, setup.layout.unitPath, setup.layout.configPath] ++ setup.metricsFile.toList ++
    inputs.config.toList ++ database.toList ++ inputs.environment.toList

namespace Disk

/-- The places on the way to what a path names, that one included. -/
def placesTo (p : Path) : List Location :=
  let next (l : Location) (name : String) := if name = ".." then l.above else l.child name
  ((stepsOf p).foldl (fun (l, places) name => (next l name, places ++ [next l name]))
    (startOf p, [])).2

/-- The mode that files are taken to have. -/
def usualMode : Nat := 0o644

/-- Takes in what a place holds, and tells whether that is a directory. -/
def look (disk : Disk) (l : Location) : IO (Disk × Bool) := do
  if l.names.isEmpty then return (disk, true)
  try
    return (disk.put l (.file usualMode (← IO.FS.readBinFile l.key)), false)
  catch fault =>
    match fault with
    | .inappropriateType _ _ _ => return (disk.put l .directory, true)
    | .noFileOrDirectory _ _ _ => return (disk, false)
    | fault => throw fault

/-- Takes in what places hold, up to the first one that is no directory. -/
def lookAlong (disk : Disk) : List Location → IO Disk
  | [] => return disk
  | l :: rest => do
    let (disk, isDirectory) ← disk.look l
    if isDirectory then disk.lookAlong rest else return disk

/-- What a mode allows to one of the three kinds of users. -/
def rights (bits : Nat) : IO.AccessRight :=
  ⟨bits.testBit 2, bits.testBit 1, bits.testBit 0⟩

/-- Brings the files in line with an entry. A file is replaced in one go. -/
def store (key : String) : Entry → IO Unit
  | .directory => IO.FS.createDirAll key
  | .file mode content => do
    let temporary := key ++ ".new"
    IO.FS.writeBinFile temporary content
    IO.setAccessRights temporary ⟨rights (mode / 64), rights (mode / 8), rights mode⟩
    IO.FS.rename temporary key

end Disk

/-- The time. -/
def Timestamp.current : IO Timestamp := do
  let time ← Std.Time.DateTime.now
  match ofText? (time.format "uuuu-MM-dd'T'HH:mm:ss.SSSSSSSSSXXX") with
  | some now => return now
  | none => throw (.userError "the clock tells no time")

/-- Runs the program. The result is the exit code. -/
def runProgram (arguments : List String) : IO UInt32 := do
  let environment := Environment.ofListing (← IO.FS.readBinFile "/proc/self/environ")
  let paths := match CommandLine.read arguments with
    | .ok c => c.paths environment
    | .error _ => []
  let before ← paths.foldlM (fun disk path => disk.lookAlong (Disk.placesTo path)) (∅ : Disk)
  let world : World := { disk := before, environment, now := ← Timestamp.current }
  let (after, finished) := CommandLine.execute arguments world
  for (key, entry) in after.disk.entries.toList do
    if before.entries.get? key ≠ some entry then Disk.store key entry
  for entry in finished.log do
    IO.eprintln (if finished.jsonLog then entry.jsonLine else entry.plainLine)
  IO.print finished.stdout
  match finished.faults with
  | [] => if finished.exit = 2 then IO.eprint CommandLine.helpText
  | fault :: causes =>
    IO.eprintln s!"Error: {fault}"
    for cause in causes do IO.eprintln s!"Caused by: {cause}"
  return UInt32.ofNat finished.exit

end Upkeep

/-- Runs the program with the arguments of the process. -/
def main (arguments : List String) : IO UInt32 :=
  Upkeep.runProgram arguments
