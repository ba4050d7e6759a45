import Upkeep.CommandLine
import Upkeep.Dispatch
import Upkeep.Load
import Upkeep.Log.Filter
import Upkeep.Reconcile.Basic
import Upkeep.World.Host

/-! Running the commands in a world. Handling an event looks up which handlers run for the flags
that are active; the one handler there is reconciles the service. Printing the files of the
service goes through the same inputs and the same renderer, but touches nothing. -/
namespace Upkeep

/-- Why a command failed. -/
inductive RunFault where
  | database (fault : LoadFault)
  | environment (fault : LoadFault)
  | config (fault : LoadFault)
  /-- The operator's configuration could not be loaded for printing. -/
  | printedConfig (fault : LoadFault)
  | databaseMissing
  | persistedFlags (fault : FlagFault)
  /-- The flags could not be listed. -/
  | listedFlags (fault : FlagFault)
  | manager (fault : ServiceFault)
  | reconcile (service : String) (fault : ReconcileFault)
  /-- The files of the service could not be printed. -/
  | render (fault : ReconcileFault)
  deriving DecidableEq, Repr

namespace RunFault

/-- The messages of a fault and of the faults behind it, the outermost first. -/
def chain : RunFault → List String
  | database fault => "Failed to load database info" :: fault.chain
  | environment fault => "Failed to load service environment" :: fault.chain
  | config fault => "Failed to build desired configuration" :: fault.chain
  | printedConfig fault => fault.chain
  | databaseMissing => ["render needs --database or --db-primary"]
  | persistedFlags fault => "Failed to read persisted flags" :: fault.chain
  | listedFlags fault => fault.chain
  | manager fault => fault.chain
  | reconcile service fault => s!"Failed to reconcile {service}" :: fault.chain
  | render fault => fault.chain

end RunFault

namespace Inputs

/-- The database, if there is one. -/
def loadDatabase (i : Inputs) (w : World) : Except LoadFault (Option Database) :=
  match i.database with
  | none => .ok none
  | some (.file path) => (Database.load w.disk path).map some
  | some (.given database) => database.checked.map some

/-- The environment of the service, which is the process's deployment environment unless there is
a file. -/
def loadEnvironment (i : Inputs) (w : World) : Except LoadFault Environment :=
  match i.environment with
  | some path => Environment.load w.environment w.disk path
  | none => .ok (Environment.ofProcess w.environment)

/-- The operator's configuration, which is empty unless there is a file. -/
def loadConfig (i : Inputs) (w : World) : Except LoadFault Config :=
  match i.config with
  | some path => Config.load w.disk path
  | none => .ok ∅

end Inputs

/-- What handling an event works with. -/
structure HookInputs where
  trigger : Trigger
  environment : Environment
  config : Config

namespace Setup

/-- The service that is maintained. -/
def service (s : Setup) : Service :=
  ⟨s.layout, s.serviceUser, s.pollEvent⟩

/-- Where flags are kept. -/
def flagFile (s : Setup) : FlagFile :=
  ⟨s.stateFile⟩

/-- Loads what handling an event works with. Polls read no input at all, so that a broken one
cannot turn a poll into a failure. -/
def loadHook (s : Setup) (event : String) (inputs : Inputs) (w : World) :
    Except RunFault HookInputs :=
  if event = s.pollEvent then .ok ⟨⟨event, inputs.database.isSome⟩, ∅, ∅⟩
  else do
    let database ← (inputs.loadDatabase w).mapError .database
    let environment ← (inputs.loadEnvironment w).mapError .environment
    let config ← (inputs.loadConfig w).mapError .config
    match database with
    | some database =>
      return ⟨⟨event, true⟩, environment, Config.desired config database environment⟩
    | none => return ⟨⟨event, false⟩, environment, ∅⟩

end Setup

/-- What can be done about an event. -/
inductive Handler where
  /-- Reconcile the service. -/
  | configure
  deriving DecidableEq, Repr

namespace Handler

/-- Which handlers run. -/
def table : DispatchTable Handler :=
  (∅ : DispatchTable Handler).when [Flags.baseConfigured, Flags.databaseAvailable] .configure

/-- Reconciles the service. -/
def runConfigure (s : Setup) (inputs : HookInputs) (w : World) : World × Except RunFault Unit :=
  match Systemctl.discover w s.systemctl with
  | .error fault => (w, .error (.manager fault))
  | .ok manager =>
    let (w, reporter) := Reporter.discover w
    let equipment : Equipment :=
      ⟨s.flagFile, manager, reporter, some ⟨s.serviceName, inputs.trigger.event⟩⟩
    let program := s.service.reconcile inputs.environment inputs.config inputs.trigger
    match (program.run equipment.host).run w with
    | (.error fault, w) => (w, .error (.reconcile s.serviceName fault))
    | (.ok outcome, w) => (w.logEvent none (.hookFinished inputs.trigger.event outcome.name), .ok ())

/-- Runs a handler. -/
def run (s : Setup) (inputs : HookInputs) : Handler → World → World × Except RunFault Unit
  | .configure => runConfigure s inputs

/-- Runs handlers one after the other, until one fails. -/
def runAll (s : Setup) (inputs : HookInputs) : List Handler → World → World × Except RunFault Unit
  | [], w => (w, .ok ())
  | handler :: rest, w =>
    match handler.run s inputs w with
    | (w, .ok ()) => runAll s inputs rest w
    | failed => failed

end Handler

namespace Setup

/-- The flags that are active: those that are kept, those that are given, and the one for the
database. -/
def activeFlags (persisted given : List String) (hasDatabase : Bool) : ActiveFlags :=
  let active := (ActiveFlags.ofNames persisted).addAll given
  if hasDatabase then active.addAll [Flags.databaseAvailable] else active

/-- Handles an event. -/
def hook (s : Setup) (event : String) (flags : List String) (inputs : Inputs) (w : World) :
    World × Except RunFault Unit :=
  match s.loadHook event inputs w with
  | .error fault => (w, .error fault)
  | .ok loaded =>
    match s.flagFile.active w.disk with
    | .error fault => (w, .error (.persistedFlags fault))
    | .ok persisted =>
      let active := activeFlags persisted flags loaded.trigger.hasDatabase
      match Handler.table.ready active with
      | [] => (w.logEvent none (.noHandler event active.names), .ok ())
      | handlers => Handler.runAll s loaded handlers w

/-- The files of the service as they would be written. -/
def render (s : Setup) (inputs : Inputs) (w : World) : Except RunFault ServiceFiles := do
  match ← (inputs.loadDatabase w).mapError .database with
  | none => throw .databaseMissing
  | some database =>
    let environment ← (inputs.loadEnvironment w).mapError .environment
    let config ← (inputs.loadConfig w).mapError .printedConfig
    let files := s.service.render environment (Config.desired config database environment)
    files.mapError fun fault => .render (.render fault)

/-- The files of a service as they are printed. -/
def printed (files : ServiceFiles) : String :=
  String.join ([files.unit, files.settings].map fun file =>
    "==> " ++ file.path.text ++ " <==\n" ++ file.content ++ "\n")

/-- The flags that are set, one on each line. -/
def listFlags (s : Setup) (w : World) : Except RunFault String :=
  match s.flagFile.active w.disk with
  | .error fault => .error (.listedFlags fault)
  | .ok names => .ok (String.join (names.map (· ++ "\n")))

/-- Runs a command; the result is what it prints. -/
def run (s : Setup) (command : Command) (w : World) : World × Except RunFault String :=
  match command with
  | .hook event flags inputs =>
    let (w, result) := s.hook event flags inputs w
    (w, result.map fun () => "")
  | .render inputs => (w, (s.render inputs w).map printed)
  | .flags => (w, s.listFlags w)

/-- The mode of a file of metrics. -/
def metricsMode : Nat := 0o644

/-- Writes the metrics if there is a file for them. A failure is only logged. -/
def writeMetrics (s : Setup) (w : World) : World :=
  match s.metricsFile with
  | none => w
  | some path =>
    match Equipment.write path w.metrics.text.toUTF8 metricsMode w with
    | (w, .ok ()) => w
    | (w, .error fault) => w.logEvent none (.metricsNotWritten path fault.message)

end Setup

/-- What a run of the program leaves to its caller. -/
structure Finished where
  /-- The exit code: 0, 1 for a command that failed, 2 for a malformed command line. -/
  exit : Nat
  /-- What is printed. -/
  stdout : String
  /-- The messages of what went wrong, the outermost first. -/
  faults : List String
  /-- What is logged. -/
  log : List Log.Entry
  /-- Whether the log is written as JSON. -/
  jsonLog : Bool

namespace Finished

/-- A run that only prints something. -/
def printing (text : String) : Finished :=
  ⟨0, text, [], [], false⟩

end Finished

namespace CommandLine

/-- The name of the program and its version. -/
def versionText : String := "service-reconciler 0.1.0\n"

/-- How the program is called. -/
def helpText : String :=
  "Usage: service-reconciler [OPTIONS] <COMMAND>\n\nCommands: hook, render, flags, help\n"

/-- Whether a word asks for a log in JSON. -/
def isJsonFormat (format : String) : Bool :=
  format.toLower == "json"

/-- Runs what a command line asks for. -/
def run (c : CommandLine) (w : World) : World × Finished :=
  let setup := c.setup w.environment
  let (w, result) := setup.run c.command w
  let w := setup.writeMetrics w
  let filter := Log.Filter.ofProcess w.environment setup.logLevel
  let finished (exit : Nat) (stdout : String) (faults : List String) : Finished :=
    ⟨exit, stdout, faults, filter.entries w.log, isJsonFormat setup.logFormat⟩
  match result with
  | .ok stdout => (w, finished 0 stdout [])
  | .error fault => (w, finished 1 "" fault.chain)

/-- Runs the program with some arguments. -/
def execute (arguments : List String) (w : World) : World × Finished :=
  match read arguments with
  | .ok c => c.run w
  | .error .version => (w, .printing versionText)
  | .error .help => (w, .printing helpText)
  | .error .malformed => (w, ⟨2, "", [], [], false⟩)

end CommandLine

end Upkeep
