import Upkeep.Database
import Upkeep.Environment
import Upkeep.SortedMap
import Upkeep.Yaml.Value

/-! The configuration of the service: named YAML values. The desired configuration is the
operator's, with the settings that this library decides put over it: where the database is and,
in the staging environment, which servers to talk to. -/
namespace Upkeep

/-- A configuration: values by name. -/
abbrev Config := SortedMap Yaml.Value

namespace Config

/-- Why a YAML value is no configuration. -/
inductive Refusal where
  /-- A name that is no text. -/
  | badName
  /-- A value that has no names at all. -/
  | notAMapping
  deriving DecidableEq, Repr

/-- The name that a mapping key gives; a tag on it says nothing. -/
def nameOf? : Yaml.Value → Option String
  | .text name => some name
  | .tagged _ (.text name) => some name
  | _ => none

/-- The configuration of a YAML value; null is an empty one. -/
def ofYaml : Yaml.Value → Except Refusal Config
  | .null => .ok ∅
  | .mapping entries =>
    match entries.mapM fun entry => (nameOf? entry.1).map (·, entry.2) with
    | some pairs => .ok (SortedMap.ofList pairs)
    | none => .error .badName
  | _ => .error .notAMapping

/-- A configuration as a YAML value. -/
def toYaml (c : Config) : Yaml.Value :=
  .mapping (c.toList.map fun (name, value) => (.text name, value))

/-- The setting that holds the primary database. -/
def mainDatabaseKey : String := "maindb"

/-- The setting that lists the standby databases. -/
def standbysKey : String := "standbys_urls"

/-- The setting that names the sign-on server. -/
def signOnKey : String := "ssoBaseURL"

/-- The setting that names the store server. -/
def storeKey : String := "storeBaseURL"

/-- The deployment environment in which test servers are used. -/
def stagingName : String := "staging"

/-- The sign-on server of the staging environment. -/
def stagingSignOn : String := "https://login.staging.ubuntu.com/api/v2/"

/-- The store server of the staging environment. -/
def stagingStore : String := "https://dashboard.staging.snapcraft.io/dev/api"

/-- The settings that this library decides, in the order in which they are set. -/
def decided (database : Database) (environment : Environment) : List (String × Yaml.Value) :=
  [(mainDatabaseKey, .text database.primary)] ++
  (if database.standbys.isEmpty then []
    else [(standbysKey, .sequence (database.standbys.map .text))]) ++
  (if environment.deployment? = some stagingName then
      [(signOnKey, .text stagingSignOn), (storeKey, .text stagingStore)]
    else [])

/-- The desired configuration: the operator's, overridden by what is decided. -/
def desired (operator : Config) (database : Database) (environment : Environment) : Config :=
  operator.insertAll (decided database environment)

end Config

end Upkeep
