import Upkeep.Collaborators
import Upkeep.Json.Value
import Upkeep.Path
import Upkeep.Text.Quoted

/-! What is logged. Each kind of event has a level, a place it comes from, a message and fields.
Settings and units never show in an event, only the digests of their bytes do. -/
namespace Upkeep.Log

/-- How much an event matters. -/
inductive Level where
  | error
  | warn
  | info
  | debug
  | trace
  deriving DecidableEq, Repr

namespace Level

/-- The word for a level. -/
def name : Level → String
  | error => "ERROR"
  | warn => "WARN"
  | info => "INFO"
  | debug => "DEBUG"
  | trace => "TRACE"

/-- Levels by how much they say: the more, the higher. -/
def detail : Level → Nat
  | error => 1
  | warn => 2
  | info => 3
  | debug => 4
  | trace => 5

end Level

/-- What a field of an event holds. -/
inductive FieldValue where
  | text (value : String)
  | bool (value : Bool)
  deriving DecidableEq, Repr

/-- An event. -/
inductive Event where
  | artifactUnchanged (path : Path)
  | artifactDiffers (path : Path) (previous : Option String) (next : String)
  | artifactWritten (path : Path)
  | flagAlreadySet (flag : String) (value : Bool)
  | flagPersisted (flag : String) (value : Bool) (path : Path)
  | runningCommand (command : String)
  | unitsReloaded
  | serviceRestarted (unit : String)
  | settingStatus (tool : Path) (state : WorkloadState) (message : String)
  | statusLogged (state : WorkloadState) (message : String)
  | statusToolMissing
  | pollSkipped
  | databaseMissing
  | nothingChanged
  | configurationChanged (unitChanged settingsChanged : Bool)
  | restartIncomplete
  | restartFailed (error : String) (output : Option String)
  | blockedNotReported (error : String)
  | reconciled
  | noHandler (event : String) (active : List String)
  | hookFinished (event outcome : String)
  | metricsNotWritten (path : Path) (error : String)
  deriving DecidableEq, Repr

namespace Event

/-- The program that sets the status. -/
def statusTool : String := "status-set"

/-- How much an event matters. -/
def level : Event → Level
  | restartFailed _ _ => .error
  | blockedNotReported _ | metricsNotWritten _ _ => .warn
  | artifactUnchanged _ | artifactDiffers _ _ _ | flagAlreadySet _ _ | flagPersisted _ _ _
  | runningCommand _ | settingStatus _ _ _ | statusToolMissing | pollSkipped => .debug
  | _ => .info

/-- The part of the program that an event comes from. -/
def target : Event → String
  | artifactUnchanged _ | artifactDiffers _ _ _ | artifactWritten _ => "service_reconciler::artifact"
  | flagAlreadySet _ _ | flagPersisted _ _ _ => "service_reconciler::state::file"
  | runningCommand _ | unitsReloaded | serviceRestarted _ =>
    "service_reconciler::service::systemctl"
  | settingStatus _ _ _ | statusLogged _ _ | statusToolMissing => "service_reconciler::status"
  | noHandler _ _ | hookFinished _ _ | metricsNotWritten _ _ => "service_reconciler"
  | _ => "service_reconciler::reconciler"

/-- The message of an event. -/
def message : Event → String
  | artifactUnchanged _ => "Artifact unchanged"
  | artifactDiffers _ _ _ => "Artifact differs from rendered content"
  | artifactWritten _ => "Artifact written"
  | flagAlreadySet _ _ => "Flag already has requested value"
  | flagPersisted _ _ _ => "Flag persisted"
  | runningCommand _ => "Running service manager command"
  | unitsReloaded => "Reloaded systemd unit definitions"
  | serviceRestarted _ => "Restarted service"
  | settingStatus _ _ _ => "Setting workload status"
  | statusLogged _ _ => "Workload status"
  | statusToolMissing => statusTool ++ " not found on PATH, status will only be logged"
  | pollSkipped => "Status poll event, skipping reconciliation"
  | databaseMissing => "Database not available yet, skipping reconciliation"
  | nothingChanged => "Nothing changed, doing nothing"
  | configurationChanged _ _ => "Configuration changed, restarting service"
  | restartIncomplete => "Previous restart did not complete, restarting service"
  | restartFailed _ _ => "Failed to restart service"
  | blockedNotReported _ => "Failed to report blocked status"
  | reconciled => "Service reconciled"
  | noHandler _ _ => "No handler ready for event"
  | hookFinished _ _ => "Hook finished"
  | metricsNotWritten _ _ => "Failed to write metrics textfile"

/-- A set of names, between braces. -/
def setText (names : List String) : String :=
  "\x7b" ++ ", ".intercalate (names.map Text.quoted) ++ "\x7d"

/-- The fields of an event after its message. One that is called `message` as well stands in
its place. -/
def fields : Event → List (String × FieldValue)
  | artifactUnchanged path | artifactWritten path => [("path", .text path.text)]
  | artifactDiffers path previous next =>
    [("path", .text path.text), ("previous", .text (previous.getD "<missing>")),
      ("next", .text next)]
  | flagAlreadySet flag value => [("flag", .text flag), ("value", .bool value)]
  | flagPersisted flag value path =>
    [("flag", .text flag), ("value", .bool value), ("path", .text path.text)]
  | runningCommand command => [("command", .text command)]
  | serviceRestarted unit => [("unit", .text unit)]
  | settingStatus tool state message =>
    [("tool", .text tool.text), ("state", .text state.name), ("message", .text message)]
  | statusLogged state message => [("state", .text state.name), ("message", .text message)]
  | configurationChanged unitChanged settingsChanged =>
    [("descriptor_changed", .bool unitChanged), ("settings_changed", .bool settingsChanged)]
  | restartFailed error output =>
    ("error", .text error) :: (output.map fun output => ("output", FieldValue.text output)).toList
  | blockedNotReported error => [("error", .text error)]
  | noHandler event active => [("event", .text event), ("active", .text (setText active))]
  | hookFinished event outcome => [("event", .text event), ("outcome", .text outcome)]
  | metricsNotWritten path error => [("path", .text path.text), ("error", .text error)]
  | _ => []

end Event

/-- The reconciliation inside which events are logged. -/
structure Span where
  /-- The service that is reconciled. -/
  service : String
  /-- The event that made it necessary. -/
  event : String
  deriving DecidableEq, Repr

namespace Span

/-- The name of the span of a reconciliation. -/
def name : String := "reconcile"

/-- The part of the program that the span belongs to. -/
def target : String := "service_reconciler::reconciler"

/-- How much the span matters. -/
def level : Level := .info

/-- The fields of a span. -/
def fields (s : Span) : List (String × String) :=
  [("service", s.service), ("event", s.event)]

end Span

/-- An event and the reconciliation it belongs to, if any. -/
structure Entry where
  event : Event
  span : Option Span
  deriving DecidableEq, Repr

/-! ## Lines

The lines of a log are JSON objects on one line each, or plain words. -/

/-- A JSON object on one line, of fields whose values are written already. -/
def objectLine (fields : List (String × String)) : String :=
  let field := fun (name, value) => String.ofList (Json.quoted (some name)) ++ ":" ++ value
  "\x7b" ++ ",".intercalate (fields.map field) ++ "\x7d"

namespace FieldValue

/-- A value as JSON. -/
def json : FieldValue → String
  | text value => String.ofList (Json.quoted (some value))
  | bool value => if value then "true" else "false"

/-- A value in words. -/
def plain : FieldValue → String
  | text value => value
  | bool value => if value then "true" else "false"

end FieldValue

namespace Entry

/-- An entry as a JSON object. -/
def jsonLine (e : Entry) : String :=
  let text (value : String) := (FieldValue.text value).json
  let fields := ("message", FieldValue.text e.event.message) :: e.event.fields
  let span := e.span.map fun span =>
    ("span", objectLine [("event", text span.event), ("service", text span.service),
      ("name", text Span.name)])
  objectLine ([("level", text e.event.level.name),
    ("fields", objectLine (fields.map fun (name, value) => (name, value.json))),
    ("target", text e.event.target)] ++ span.toList)

/-- An entry in words. -/
def plainLine (e : Entry) : String :=
  " ".intercalate ((e.event.level.name :: (e.event.target ++ ":") :: [e.event.message]) ++
    e.event.fields.map fun (name, value) => name ++ "=" ++ value.plain)

end Entry

end Upkeep.Log
