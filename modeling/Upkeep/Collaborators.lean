import Upkeep.Fault
import Upkeep.Path
import Upkeep.SortedMap
import Upkeep.Text.Cut

/-! Those that the maintenance of a service works with: external programs, the service manager,
and whoever is told the state of the workload. -/
namespace Upkeep

/-! ## External programs -/

/-- How a program ends. -/
inductive Exit where
  | code (n : Nat)
  | signal (n : Nat)
  deriving DecidableEq, Repr

namespace Exit

/-- Whether the program ended well. -/
def isSuccess (e : Exit) : Bool :=
  e == .code 0

/-- The exit code, unless a signal ended the program. -/
def code? : Exit → Option Nat
  | code n => some n
  | signal _ => none

/-- The names of the signals, from 1 on. -/
def signalNames : List String :=
  ["SIGHUP", "SIGINT", "SIGQUIT", "SIGILL", "SIGTRAP", "SIGABRT", "SIGBUS", "SIGFPE", "SIGKILL",
    "SIGUSR1", "SIGSEGV", "SIGUSR2", "SIGPIPE", "SIGALRM", "SIGTERM", "SIGSTKFLT", "SIGCHLD",
    "SIGCONT", "SIGSTOP", "SIGTSTP", "SIGTTIN", "SIGTTOU", "SIGURG", "SIGXCPU", "SIGXFSZ",
    "SIGVTALRM", "SIGPROF", "SIGWINCH", "SIGIO", "SIGPWR", "SIGSYS"]

/-- The text that tells how a program ended. -/
def text : Exit → String
  | code n => s!"exit status: {n}"
  | signal 0 => "signal: 0"
  | signal (n + 1) =>
    match signalNames[n]? with
    | some name => s!"signal: {n + 1} ({name})"
    | none => s!"signal: {n + 1}"

end Exit

/-- What an external program does when it is started. Programs do not touch files. -/
structure Tool where
  /-- How it ends. -/
  exit : Exit := .code 0
  /-- What it prints. -/
  stdout : ByteArray := .empty
  /-- What it prints about errors. -/
  stderr : ByteArray := .empty

/-! ## The service manager

Which names of units it is asked about, and how its commands fail. -/

/-- What a command printed. -/
structure CommandOutput where
  stdout : String := ""
  stderr : String := ""
  deriving DecidableEq, Repr

namespace CommandOutput

/-- Whether there is nothing but blanks. -/
def isEmpty (o : CommandOutput) : Bool :=
  (Text.trim o.stdout).isEmpty && (Text.trim o.stderr).isEmpty

/-- Both outputs without the blanks around them, on lines of their own. -/
def text (o : CommandOutput) : String :=
  "\n".intercalate ([Text.trim o.stdout, Text.trim o.stderr].filter fun part => !part.isEmpty)

end CommandOutput

/-- Why a command of the service manager failed. -/
inductive ServiceFault where
  /-- The unit has a name that no command is given. -/
  | invalidUnit (name : String)
  /-- The service manager's program is nowhere to be found. -/
  | notFound (reason : String)
  /-- The program could not be started. -/
  | notStarted (command : String) (fault : Fault)
  /-- The program ended badly, with an exit code or by a signal. -/
  | failed (command : String) (code : Option Int) (output : CommandOutput)
  deriving DecidableEq, Repr

namespace ServiceFault

/-- The text that a user sees for a fault. -/
def message : ServiceFault → String
  | invalidUnit name => s!"Invalid unit name '{name}'"
  | notFound reason => s!"Service manager binary not found: {reason}"
  | notStarted command fault => s!"Failed to execute {command}: {fault.message}"
  | failed command (some code) _ => s!"{command} exited with code {code}"
  | failed command none _ => s!"{command} exited with signal"

/-- What the command printed, if it ran. -/
def output? : ServiceFault → Option CommandOutput
  | failed _ _ output => some output
  | _ => none

/-- The messages of a fault and of the faults behind it, the outermost first. -/
def chain (fault : ServiceFault) : List String :=
  fault.message ::
    match fault with
    | notStarted _ fault => [fault.message]
    | _ => []

end ServiceFault

/-- Characters of the names of units. -/
def isUnitCharacter (c : Char) : Bool :=
  c.isAlphanum || [':', '_', '.', '\\', '@', '-'].contains c

/-- Whether a text can name a unit. -/
def isUnitName (name : String) : Bool :=
  !name.isEmpty && name.toList.all isUnitCharacter

/-! ## The state of the workload

It is shown to those who run the service. -/

/-- The state of the workload. -/
inductive WorkloadState where
  | active
  | blocked
  | maintenance
  | waiting
  deriving DecidableEq, Repr

namespace WorkloadState

/-- The word for a state. -/
def name : WorkloadState → String
  | active => "active"
  | blocked => "blocked"
  | maintenance => "maintenance"
  | waiting => "waiting"

/-- The message when all is well. -/
def readyMessage : String := "ready"

/-- The message when a restart failed. -/
def restartFailedMessage : String := "error restarting service"

end WorkloadState

/-- Why a status could not be reported. -/
inductive StatusFault where
  /-- The tool could not be started. -/
  | notStarted (tool : Path) (fault : Fault)
  /-- The tool ended badly. -/
  | failed (tool : Path) (exit : Exit) (stderr : String)
  /-- There is no tool to speak of. -/
  | unavailable
  deriving DecidableEq, Repr

namespace StatusFault

/-- The text that a user sees for a fault. -/
def message : StatusFault → String
  | notStarted tool _ => s!"Failed to execute {tool.text}"
  | failed tool exit stderr => s!"{tool.text} exited with {exit.text}: {Text.trim stderr}"
  | unavailable => "status tool unavailable"

/-- The messages of a fault and of the faults behind it, the outermost first. -/
def chain (fault : StatusFault) : List String :=
  fault.message ::
    match fault with
    | notStarted _ fault => [fault.message]
    | _ => []

end StatusFault

end Upkeep
