import Upkeep.Config
import Upkeep.Environment
import Upkeep.Path
import Upkeep.Text.Cut
import Upkeep.Yaml.Printer

/-! The texts of the two files of a service: its settings, and the unit file by which the system
runs it. -/
namespace Upkeep

/-! ## Faults

A fault names the setting or variable at fault, if any, and never shows a value. -/

/-- Why a file cannot be rendered. -/
inductive RenderFault where
  /-- A value in the configuration has no written form. -/
  | unwritableSettings
  /-- An environment variable has a name that units do not take. -/
  | badName (name : String)
  /-- The value of an environment variable holds a control character. -/
  | badValue (name : String)
  deriving DecidableEq, Repr

namespace RenderFault

/-- The text that a user sees for a fault. What the YAML printer has to say about settings that it cannot
write would follow after a colon, and is left out. -/
def message : RenderFault → String
  | unwritableSettings => "Failed to serialize settings"
  | badName name => s!"Invalid environment variable name '{name}'"
  | badValue name => s!"Environment variable {name} contains control characters"

end RenderFault

/-! ## The settings file

A comment that tells people to keep off, then the configuration as YAML. -/

/-- The first line of every file that is managed. -/
def managedHeader : String :=
  "# Managed by service-reconciler; local changes will be overwritten."

/-- The text of the settings file. -/
def Config.settings (c : Config) : Except RenderFault String :=
  match c.toYaml.print? with
  | some yaml => .ok (managedHeader ++ "\n" ++ yaml)
  | none => .error .unwritableSettings

/-! ## The unit file

Each environment variable gets a line of its own, in name order, with its value escaped for double
quotes. -/

/-- What the unit file of a service says. -/
structure ServiceUnit where
  /-- What the service is. -/
  description : String
  /-- The program that runs. -/
  execPath : Path
  /-- Its arguments. -/
  arguments : List String
  /-- The user it runs as. -/
  user : String
  /-- The directory it runs in. -/
  directory : Path
  /-- The environment it runs with. -/
  environment : Environment
  deriving DecidableEq

namespace ServiceUnit

/-- The command that starts the service. -/
def execStart (u : ServiceUnit) : String :=
  " ".intercalate (u.execPath.text :: u.arguments)

/-- Characters that start the name of a variable. -/
def startsName (c : Char) : Bool :=
  c.isAlpha || c == '_'

/-- Characters of the name of a variable. -/
def inName (c : Char) : Bool :=
  c.isAlphanum || c == '_'

/-- Whether a unit takes a text as the name of a variable. -/
def isVariableName (name : String) : Bool :=
  match name.toList with
  | [] => false
  | c :: rest => startsName c && rest.all inName

/-- A value as it is written between double quotes. Backslashes come first, so that those before
quotes are not doubled themselves. Percent signs are doubled because single ones stand for something
else in units. -/
def escapedValue (value : String) : String :=
  let slashed := Text.replaced '\\' ['\\', '\\'] value.toList
  let quoted := Text.replaced '"' ['\\', '"'] slashed
  String.ofList (Text.replaced '%' ['%', '%'] quoted)

/-- Whether a value holds a control character. -/
def hasControl (value : String) : Bool :=
  value.toList.any Text.isControl

/-- The line that sets a variable. A bad name is found before a bad value. -/
def environmentLine (name value : String) : Except RenderFault String :=
  if !isVariableName name then .error (.badName name)
  else if hasControl value then .error (.badValue name)
  else .ok ("Environment=\"" ++ name ++ "=" ++ escapedValue value ++ "\"")

/-- The lines before those of the environment. -/
def opening (u : ServiceUnit) : List String :=
  [managedHeader,
    "[Unit]",
    "Description=" ++ u.description,
    "After=network.target",
    "",
    "[Service]",
    "Type=simple",
    "User=" ++ u.user,
    "WorkingDirectory=" ++ u.directory.text]

/-- The lines after those of the environment. -/
def closing (u : ServiceUnit) : List String :=
  ["ExecStart=" ++ u.execStart,
    "Restart=on-failure",
    "",
    "[Install]",
    "WantedBy=multi-user.target"]

/-- The lines of the environment. -/
def environmentLines (e : Environment) : Except RenderFault (List String) :=
  e.toList.mapM fun (name, value) => environmentLine name value

/-- The text of some lines, each ended by a line feed. -/
def textOfLines (lines : List String) : String :=
  String.join (lines.map (· ++ "\n"))

/-- The text of the unit file. -/
def render (u : ServiceUnit) : Except RenderFault String := do
  let environment ← environmentLines u.environment
  return textOfLines (u.opening ++ environment ++ u.closing)

end ServiceUnit

end Upkeep
