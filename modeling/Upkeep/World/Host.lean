import Upkeep.Collaborators
import Upkeep.Program
import Upkeep.Text.Lossy
import Upkeep.World.Basic

/-! Answering the requests of programs from the world, with the tools that are found in it. -/
namespace Upkeep

/-! ## Reporting

The state of the workload is reported by a tool that is run, or, where there is none, in the log. -/

/-- A way to report the state of the workload. -/
inductive Reporter where
  | tool (path : Path)
  | log
  deriving DecidableEq, Repr

namespace Reporter

/-- The tool if there is one among the programs, and else the log. -/
def discover (w : World) : World × Reporter :=
  match w.find Log.Event.statusTool with
  | .ok path => (w, .tool path)
  | .error _ => (w.logEvent none .statusToolMissing, .log)

/-- Reports a state. -/
def report (r : Reporter) (span : Option Log.Span) (state : WorkloadState) (message : String)
    (w : World) : World × Except StatusFault Unit :=
  match r with
  | log => (w.logEvent span (.statusLogged state message), .ok ())
  | tool path =>
    match (w.logEvent span (.settingStatus path state message)).start path [state.name, message] with
    | (w, .error fault) => (w, .error (.notStarted path fault))
    | (w, .ok run) =>
      if run.exit.isSuccess then (w, .ok ())
      else (w, .error (.failed path run.exit (Text.lossy run.stderr)))

end Reporter

/-! ## The service manager

It is driven by the program `systemctl`. -/

/-- The program that commands the service manager. -/
structure Systemctl where
  program : Path
  deriving DecidableEq, Repr

namespace Systemctl

/-- The name of the program. -/
def name : String := "systemctl"

/-- The program to use: the one that was set, or the one found among the programs. -/
def discover (w : World) (configured : Option Path) : Except ServiceFault Systemctl :=
  match configured with
  | some path => .ok ⟨path⟩
  | none =>
    match w.find name with
    | .ok path => .ok ⟨path⟩
    | .error fault => .error (.notFound s!"{name}: {fault.message}")

/-- Runs a command. It is counted under its label, and once more if it fails. -/
def run (s : Systemctl) (span : Option Log.Span) (label : String) (arguments : List String)
    (w : World) : World × Except ServiceFault Unit :=
  let command := " ".intercalate (s.program.text :: arguments)
  let w := (w.logEvent span (.runningCommand command)).count (.command label)
  match w.start s.program arguments with
  | (w, .error fault) => (w.count (.commandError label), .error (.notStarted command fault))
  | (w, .ok tool) =>
    if tool.exit.isSuccess then (w, .ok ())
    else
      (w.count (.commandError label),
        .error (.failed command (tool.exit.code?.map Int.ofNat)
          ⟨Text.lossy tool.stdout, Text.lossy tool.stderr⟩))

/-- Makes the service manager read the unit files again. -/
def reloadUnits (s : Systemctl) (span : Option Log.Span) (w : World) :
    World × Except ServiceFault Unit :=
  match s.run span "daemon-reload" ["daemon-reload"] w with
  | (w, .ok ()) => (w.logEvent span .unitsReloaded, .ok ())
  | failed => failed

/-- Restarts a unit. Nothing is run for a name that no unit can have. -/
def restart (s : Systemctl) (span : Option Log.Span) (unit : String) (w : World) :
    World × Except ServiceFault Unit :=
  if isUnitName unit then
    match s.run span "restart" ["restart", unit] w with
    | (w, .ok ()) => (w.logEvent span (.serviceRestarted unit), .ok ())
    | failed => failed
  else (w, .error (.invalidUnit unit))

end Systemctl

/-! ## Requests -/

/-- What a program works with. -/
structure Equipment where
  /-- Where flags are kept. -/
  flags : FlagFile
  /-- The service manager. -/
  manager : Systemctl
  /-- How the state of the workload is reported. -/
  reporter : Reporter
  /-- The reconciliation that events are logged under. -/
  span : Option Log.Span

namespace Equipment

/-- Gives a flag a value, and logs what that did. -/
def setFlag (e : Equipment) (name : String) (value : Bool) (w : World) :
    World × Except FlagFault Unit :=
  match e.flags.set w.now name value w.disk with
  | (disk, .error fault) => ({ w with disk }, .error fault)
  | (disk, .ok .alreadySet) =>
    (({ w with disk } : World).logEvent e.span (.flagAlreadySet name value), .ok ())
  | (disk, .ok .persisted) =>
    (({ w with disk } : World).logEvent e.span (.flagPersisted name value e.flags.path), .ok ())

/-- Replaces a file. -/
def write (path : Path) (content : ByteArray) (mode : Nat) (w : World) :
    World × Except Fault Unit :=
  let (disk, result) := w.disk.replace path content mode
  ({ w with disk }, result)

/-- Answers a request. No time passes in the world, so every reconciliation takes none. -/
def answer (e : Equipment) (r : Request) (w : World) : World × Answer r :=
  match r with
  | .read path => (w, w.disk.read path)
  | .write path content mode => write path content mode w
  | .getFlag name => (w, e.flags.get name w.disk)
  | .setFlag name value => e.setFlag name value w
  | .reloadUnits => e.manager.reloadUnits e.span w
  | .restart unit => e.manager.restart e.span unit w
  | .report state message => e.reporter.report e.span state message w
  | .log event => (w.logEvent e.span event, ())
  | .count counter => (w.count counter, ())
  | .observeDuration => ({ w with metrics := w.metrics.observe (.ofDecimal false 0 0) }, ())

/-- The world as a host of programs. -/
def host (e : Equipment) : Host World := fun r w =>
  let (w, answer) := e.answer r w
  (answer, w)

end Equipment

end Upkeep
