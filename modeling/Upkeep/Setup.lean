import Upkeep.Environment
import Upkeep.Service
import Upkeep.Text.Cut

/-! How the maintainer itself is set up: which service it keeps, where everything lies, and how
it logs. Each item has a default that a variable of the process's environment overrides. -/
namespace Upkeep

/-- How the maintainer is set up. -/
structure Setup where
  /-- The service that is maintained. -/
  serviceName : String := "serial-vault"
  /-- The directory of the services' trees. -/
  baseDirectory : Path := ⟨"/srv"⟩
  /-- The directory of the unit files. -/
  unitDirectory : Path := ⟨"/etc/systemd/system"⟩
  /-- The user that the service runs as. -/
  serviceUser : String := "www-data"
  /-- The file that keeps flags between runs. -/
  stateFile : Path := ⟨"/var/lib/service-reconciler/flags.json"⟩
  /-- The event that only asks for the status. -/
  pollEvent : String := "update-status"
  /-- The service manager's program, if it is not to be looked for. -/
  systemctl : Option Path := none
  /-- How much is logged. -/
  logLevel : String := "INFO"
  /-- The form of the log. -/
  logFormat : String := "text"
  /-- The file that metrics are written to, if any. -/
  metricsFile : Option Path := none
  deriving DecidableEq, Repr

namespace Setup

/-- A path that a variable gives; a blank value counts as none. -/
def path? (process : Environment) (name : String) : Option Path :=
  ((process.get? name).filter fun value => !(Text.trim value).isEmpty).map Path.mk

/-- The setup that a process's environment gives. -/
def ofEnvironment (process : Environment) : Setup :=
  let initial : Setup := {}
  let text (name : String) (otherwise : String) := (process.get? name).getD otherwise
  let path (name : String) (otherwise : Path) : Path := ⟨text name otherwise.text⟩
  { serviceName := text "SERVICE_NAME" initial.serviceName
    baseDirectory := path "SERVICE_BASE_DIR" initial.baseDirectory
    unitDirectory := path "SYSTEMD_UNIT_DIR" initial.unitDirectory
    serviceUser := text "SERVICE_USER" initial.serviceUser
    stateFile := path "STATE_FILE" initial.stateFile
    pollEvent := text "STATUS_POLL_EVENT" initial.pollEvent
    systemctl := path? process "SYSTEMCTL_PATH"
    logLevel := text "LOG_LEVEL" initial.logLevel
    logFormat := text "LOG_FORMAT" initial.logFormat
    metricsFile := path? process "METRICS_TEXTFILE" }

/-- Where the service's files lie. -/
def layout (s : Setup) : Layout :=
  .ofService s.serviceName s.baseDirectory s.unitDirectory

end Setup

end Upkeep
