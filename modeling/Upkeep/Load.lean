import Upkeep.Config
import Upkeep.Database
import Upkeep.Disk.Basic
import Upkeep.Environment

/-! Reading the inputs from files: the operator's configuration, the database and the service's
environment. Each failure names the file it is about. -/
namespace Upkeep

/-- Why an input could not be loaded. -/
inductive LoadFault where
  /-- The file could not be read. -/
  | unreadable (path : Path) (fault : Fault)
  /-- The file is not the YAML that was expected. -/
  | unparsable (path : Path)
  /-- The file is YAML but has no names at its top level. -/
  | notAMapping (path : Path)
  /-- The file of variables was refused. -/
  | badEnvironment (path : Path) (refusal : Dotenv.Refusal)
  /-- A database URI has a scheme of another kind. -/
  | foreignUri (uri : String)
  deriving DecidableEq, Repr

namespace LoadFault

/-- The text that a user sees for a fault. Passwords in URIs are masked. What the YAML reader has to say about
a file that it cannot parse would follow after a colon, and is left out. -/
def message : LoadFault → String
  | unreadable path fault => s!"Failed to read {path.text}: {fault.message}"
  | unparsable path => s!"Failed to parse {path.text}"
  | notAMapping path => s!"Expected a mapping at the top level of {path.text}"
  | badEnvironment path refusal =>
    s!"Failed to parse environment file {path.text}: {refusal.message}"
  | foreignUri uri =>
    s!"Invalid database URI '{maskUri uri}': expected postgres:// or postgresql:// scheme"

/-- The messages of a fault and of the faults behind it, the outermost first. -/
def chain (fault : LoadFault) : List String :=
  fault.message ::
    match fault with
    | unreadable _ fault => [fault.message]
    | badEnvironment _ (.unreadable fault) => [fault.message, fault.message]
    | badEnvironment _ refusal => [refusal.message]
    | _ => []

end LoadFault

/-- The text of an input file. -/
def loadText (disk : Disk) (path : Path) : Except LoadFault String :=
  (disk.readText path).mapError (.unreadable path)

/-- Refuses a database with a URI of another kind. -/
def Database.checked (database : Database) : Except LoadFault Database :=
  database.check.mapError .foreignUri

/-- The database that a file describes. -/
def Database.load (disk : Disk) (path : Path) : Except LoadFault Database := do
  let text ← loadText disk path
  let database ← (Database.read text).mapError fun _ => .unparsable path
  database.checked

/-- The configuration in a file. -/
def Config.load (disk : Disk) (path : Path) : Except LoadFault Config := do
  let text ← loadText disk path
  let value ← (Yaml.Value.read text).mapError fun _ => .unparsable path
  match Config.ofYaml value with
  | .ok config => return config
  | .error .badName => throw (.unparsable path)
  | .error .notAMapping => throw (.notAMapping path)

/-- The environment in a file. -/
def Environment.load (process : Environment) (disk : Disk) (path : Path) :
    Except LoadFault Environment := do
  let content ← (disk.read path).mapError fun fault => .badEnvironment path (.unreadable fault)
  (Dotenv.read process content).mapError (.badEnvironment path)

end Upkeep
