import Upkeep.Service

/-! Reconciling: bringing the files of a service and the running service in line with what is
desired. Two flags say what is still to be done. They are set before anything is written and
unset only after a restart that succeeded, so that a run which fails or is cut short leaves the
rest to the next one, even when the files already match by then. -/
namespace Upkeep

/-- What made a reconciliation necessary. -/
structure Trigger where
  /-- The name of the event. -/
  event : String
  /-- Whether there is a primary database. -/
  hasDatabase : Bool
  deriving DecidableEq, Repr

/-- What a reconciliation did. -/
inductive Outcome where
  /-- All was as it shall be, and nothing was restarted. -/
  | unchanged
  /-- The service has been restarted. -/
  | applied
  deriving DecidableEq, Repr

namespace Outcome

/-- The word for an outcome. -/
def name : Outcome → String
  | unchanged => "unchanged"
  | applied => "applied"

end Outcome

/-- Why a reconciliation failed. -/
inductive ReconcileFault where
  | render (fault : RenderFault)
  | artifact (fault : ArtifactFault)
  | service (fault : ServiceFault)
  | flag (fault : FlagFault)
  | status (fault : StatusFault)
  deriving DecidableEq, Repr

namespace ReconcileFault

/-- The text that a user sees for a fault. -/
def message : ReconcileFault → String
  | render fault => s!"Failed to render artifacts: {fault.message}"
  | artifact fault => fault.message
  | service fault => s!"Service manager command failed: {fault.message}"
  | flag fault => s!"Failed to persist flag: {fault.message}"
  | status fault => s!"Failed to report status: {fault.message}"

/-- The messages of a fault and of the faults behind it, the outermost first. -/
def chain (fault : ReconcileFault) : List String :=
  fault.message ::
    match fault with
    | render fault => [fault.message]
    | artifact fault => fault.causes
    | service fault => fault.chain
    | flag fault => fault.chain
    | status fault => fault.chain

end ReconcileFault

/-- A part of a reconciliation. -/
abbrev Reconciling (α : Type) := Action ReconcileFault α

namespace Service

/-- Reports that all is well. -/
def reportReady : Reconciling Unit :=
  Action.mapFault .status (Action.report .active WorkloadState.readyMessage)

/-- Gives a flag a value. -/
def setFlag (name : String) (value : Bool) : Reconciling Unit :=
  Action.mapFault .flag (Action.setFlag name value)

/-- Whether a flag is set. -/
def getFlag (name : String) : Reconciling Bool :=
  Action.mapFault .flag (Action.getFlag name)

/-- Sets the flags for what files that are stale make necessary. -/
def markPending (unitStale settingsStale : Bool) : Reconciling Unit := do
  if unitStale then setFlag Flags.reloadPending true
  if unitStale || settingsStale then setFlag Flags.restartPending true

/-- Restarts the service, after the units have been read again if that is needed. -/
def restart (s : Service) (reload : Bool) : Action ServiceFault Unit := do
  if reload then Action.reloadUnits
  Action.restart s.layout.serviceName

/-- Tells about a restart that failed. That the report may fail as well is only logged. -/
def restartFailed (fault : ServiceFault) : Reconciling Unit := do
  let output := (fault.output?.filter fun output => !output.isEmpty).map CommandOutput.text
  Action.log (.restartFailed fault.message output)
  match ← Action.outcome (Action.report .blocked WorkloadState.restartFailedMessage) with
  | .ok () => return
  | .error fault => Action.log (.blockedNotReported fault.message)

/-- Restarts the service and unsets the flags for what has then been done. -/
def restartPending (s : Service) : Reconciling Outcome := do
  let reload ← getFlag Flags.reloadPending
  match ← Action.outcome (s.restart reload) with
  | .error fault =>
    restartFailed fault
    throw (.service fault)
  | .ok () =>
    setFlag Flags.configured true
    setFlag Flags.reloadPending false
    setFlag Flags.restartPending false
    reportReady
    Action.log .reconciled
    return .applied

/-- Writes the files of the service and restarts it if that is due. -/
def converge (s : Service) (files : ServiceFiles) : Reconciling Outcome := do
  let unitStale ← Action.mapFault .artifact files.unit.isStale
  let settingsStale ← Action.mapFault .artifact files.settings.isStale
  markPending unitStale settingsStale
  discard (Action.mapFault .artifact files.unit.apply)
  discard (Action.mapFault .artifact files.settings.apply)
  if ← getFlag Flags.restartPending then
    Action.log (if unitStale || settingsStale then .configurationChanged unitStale settingsStale
      else .restartIncomplete)
    s.restartPending
  else
    Action.log .nothingChanged
    reportReady
    return .unchanged

/-- Reconciles the service, except that polls only report the status and that nothing is done
while there is no database. -/
def reconcileOnce (s : Service) (environment : Environment) (config : Config) (trigger : Trigger) :
    Reconciling Outcome := do
  if trigger.event = s.pollEvent then
    Action.log .pollSkipped
    Action.count .skipped
    reportReady
    return .unchanged
  else if trigger.hasDatabase then
    match s.render environment config with
    | .error fault => throw (.render fault)
    | .ok files => s.converge files
  else
    Action.log .databaseMissing
    Action.count .skipped
    return .unchanged

/-- Counts what a reconciliation came to. -/
def countOutcome : Except ReconcileFault Outcome → Program Unit
  | .ok .applied => Program.request (.count .applied)
  | .ok .unchanged => return
  | .error _ => Program.request (.count .errors)

/-- Reconciles the service and keeps count of it. -/
def reconcile (s : Service) (environment : Environment) (config : Config) (trigger : Trigger) :
    Program (Except ReconcileFault Outcome) := do
  Program.request (.count .reconciliations)
  let result ← (s.reconcileOnce environment config trigger).run
  Program.request .observeDuration
  countOutcome result
  return result

end Service

end Upkeep
