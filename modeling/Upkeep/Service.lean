import Upkeep.Artifact
import Upkeep.Path
import Upkeep.Render
import Upkeep.Text.Quoted

/-! The service that is maintained, and the two files that make it up: its unit and its
settings. -/
namespace Upkeep

/-! ## Places

The code and the settings of a service lie under a tree of its own, its unit file lies among those of
the system. -/

/-- The places of a service's files. -/
structure Layout where
  /-- The name of the service, which is also the name of its unit and of its program. -/
  serviceName : String
  /-- The directory of the program that runs. -/
  codeDirectory : Path
  /-- The settings file. -/
  configPath : Path
  /-- The unit file. -/
  unitPath : Path
  deriving DecidableEq, Repr

namespace Layout

/-- The name of the settings file. -/
def settingsName : String := "settings.yaml"

/-- The layout of a service, whose tree lies under `base` and whose unit lies in `units`. -/
def ofService (serviceName : String) (base units : Path) : Layout :=
  let tree := base.joinText serviceName
  { serviceName
    codeDirectory := (tree.joinText "code").joinText "current"
    configPath := (tree.joinText "etc").joinText settingsName
    unitPath := units.joinText (serviceName ++ ".service") }

/-- The program of the service. -/
def execPath (l : Layout) : Path :=
  l.codeDirectory.joinText l.serviceName

end Layout

/-! ## Files -/

/-- The service that is maintained. -/
structure Service where
  /-- Where its files lie. -/
  layout : Layout
  /-- The user it runs as. -/
  user : String := "www-data"
  /-- The event that only asks for its status. -/
  pollEvent : String := "update-status"
  deriving DecidableEq, Repr

/-- The files of a service. -/
structure ServiceFiles where
  unit : Artifact
  settings : Artifact
  deriving DecidableEq, Repr

namespace Service

/-- The mode of a unit file. -/
def unitMode : Nat := 0o644

/-- The mode of a settings file, which holds credentials. -/
def settingsMode : Nat := 0o640

/-- What the unit of the service says. -/
def unit (s : Service) (environment : Environment) : ServiceUnit :=
  { description := s.layout.serviceName
    execPath := s.layout.execPath
    arguments := ["--config", s.layout.configPath.text]
    user := s.user
    directory := s.layout.codeDirectory
    environment }

/-- The files of the service for an environment and a configuration. -/
def render (s : Service) (environment : Environment) (config : Config) :
    Except RenderFault ServiceFiles := do
  let unit ← (s.unit environment).render
  let settings ← config.settings
  return ⟨⟨s.layout.unitPath, unit, unitMode⟩, ⟨s.layout.configPath, settings, settingsMode⟩⟩

/-- Fields as they are shown to people who debug. -/
def fieldsText (fields : List (String × String)) : String :=
  ", ".intercalate (fields.map fun (name, value) => name ++ ": " ++ value)

/-- The service as it is shown to people who debug. -/
def debugText (s : Service) : String :=
  let layout := "ServiceLayout \x7b " ++ fieldsText [
    ("service_name", Text.quoted s.layout.serviceName),
    ("code_dir", Text.quotedPath s.layout.codeDirectory.text),
    ("config_path", Text.quotedPath s.layout.configPath.text),
    ("unit_path", Text.quotedPath s.layout.unitPath.text)] ++ " \x7d"
  "Reconciler \x7b " ++ fieldsText [
    ("layout", layout),
    ("service_user", Text.quoted s.user),
    ("status_poll_event", Text.quoted s.pollEvent)] ++ ", .. \x7d"

end Service

end Upkeep
