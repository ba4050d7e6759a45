import Upkeep.Collaborators
import Upkeep.Flags.File
import Upkeep.Log.Event
import Upkeep.Metrics

/-! Programs that act through requests. A program is data: it is done, or it asks for something
and goes on with the answer. Whoever answers decides what the requests do, so one program can
be run against real files and tools, against stand-ins that fail on purpose, and up to any
request only. -/
namespace Upkeep

/-- What a program can ask for. -/
inductive Request where
  /-- The content of a file. -/
  | read (path : Path)
  /-- To replace a file. -/
  | write (path : Path) (content : ByteArray) (mode : Nat)
  /-- Whether a flag is set. -/
  | getFlag (name : String)
  /-- To give a flag a value that lasts. -/
  | setFlag (name : String) (value : Bool)
  /-- To make the service manager read the unit files again. -/
  | reloadUnits
  /-- To restart a unit. -/
  | restart (unit : String)
  /-- To report the state of the workload. -/
  | report (state : WorkloadState) (message : String)
  /-- To log an event. -/
  | log (event : Log.Event)
  /-- To count something. -/
  | count (counter : Counter)
  /-- To take in how long the reconciliation took. -/
  | observeDuration
  deriving DecidableEq

/-- What the answer to a request is. -/
abbrev Answer : Request → Type
  | .read _ => Except Fault ByteArray
  | .write _ _ _ => Except Fault Unit
  | .getFlag _ => Except FlagFault Bool
  | .setFlag _ _ => Except FlagFault Unit
  | .reloadUnits => Except ServiceFault Unit
  | .restart _ => Except ServiceFault Unit
  | .report _ _ => Except StatusFault Unit
  | .log _ => Unit
  | .count _ => Unit
  | .observeDuration => Unit

/-- A program that comes to a result of type `α`. -/
inductive Program (α : Type) where
  | done (result : α)
  | ask (request : Request) (next : Answer request → Program α)

namespace Program

variable {α β : Type}

/-- One program, then another that depends on its result. -/
def bind : Program α → (α → Program β) → Program β
  | done result, next => next result
  | ask request rest, next => ask request fun answer => (rest answer).bind next

instance : Monad Program where
  pure := done
  bind := bind

/-- The program that asks for one thing. -/
def request (r : Request) : Program (Answer r) :=
  ask r done

end Program

/-- Who answers requests, changing a state on the way. -/
abbrev Host (σ : Type) := (r : Request) → StateM σ (Answer r)

namespace Program

variable {α σ : Type}

/-- Runs a program to its end. -/
def run (host : Host σ) : Program α → StateM σ α
  | done result => pure result
  | ask request next => do (next (← host request)).run host

end Program

/-- A program that may fail. -/
abbrev Action (ε α : Type) := ExceptT ε Program α

namespace Action

variable {ε δ α : Type}

/-- An action whose faults are seen as those of another kind. -/
def mapFault (f : δ → ε) (action : Action δ α) : Action ε α :=
  ExceptT.mk do return (← action.run).mapError f

/-- Asks whether a flag is set. -/
def getFlag (name : String) : Action FlagFault Bool :=
  ExceptT.mk (Program.request (.getFlag name))

/-- Gives a flag a value. -/
def setFlag (name : String) (value : Bool) : Action FlagFault Unit :=
  ExceptT.mk (Program.request (.setFlag name value))

/-- Makes the service manager read the unit files again. -/
def reloadUnits : Action ServiceFault Unit :=
  ExceptT.mk (Program.request .reloadUnits)

/-- Restarts a unit. -/
def restart (unit : String) : Action ServiceFault Unit :=
  ExceptT.mk (Program.request (.restart unit))

/-- Reports the state of the workload. -/
def report (state : WorkloadState) (message : String) : Action StatusFault Unit :=
  ExceptT.mk (Program.request (.report state message))

/-- Logs an event. -/
def log (event : Log.Event) : Action ε Unit :=
  ExceptT.lift (Program.request (.log event))

/-- Counts something. -/
def count (counter : Counter) : Action ε Unit :=
  ExceptT.lift (Program.request (.count counter))

/-- What an action comes to, also where it fails. -/
def outcome (action : Action δ α) : Action ε (Except δ α) :=
  ExceptT.lift action.run

end Action

end Upkeep
