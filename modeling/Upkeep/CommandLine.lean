import Upkeep.Database
import Upkeep.Setup

/-! The command line: a command with its options, of which some are general and may stand before
the command as well as after it. An option takes a value, either as the next argument or after
an equals sign; after `--` nothing is an option any more. -/
namespace Upkeep

/-- An option that a command takes. All options take values. -/
structure OptionRule where
  /-- The name, without the dashes in front. -/
  name : String
  /-- Whether the value is a path, which is never empty. -/
  isPath : Bool := false
  /-- Whether the option may be given more than once. -/
  repeats : Bool := false
  deriving DecidableEq, Repr

/-- What stands on a part of the command line. -/
structure Arguments where
  /-- The options with their values, in the order in which they are given. -/
  options : List (String × String) := []
  /-- What is no option. -/
  operands : List String := []
  deriving DecidableEq, Repr

namespace Arguments

/-- The value of an option. -/
def value? (a : Arguments) (name : String) : Option String :=
  a.options.lookup name

/-- The values of an option that repeats. -/
def values (a : Arguments) (name : String) : List String :=
  (a.options.filter fun option => option.1 == name).map (·.2)

/-- The path that an option gives. -/
def path? (a : Arguments) (name : String) : Option Path :=
  (a.value? name).map Path.mk

/-- Adds an option, unless its value or its being there once more is not allowed. -/
def add? (a : Arguments) (rule : OptionRule) (value : String) : Option Arguments :=
  if rule.isPath && value.isEmpty then none
  else if !rule.repeats && (a.value? rule.name).isSome then none
  else some { a with options := a.options ++ [(rule.name, value)] }

/-- Adds something that is no option. -/
def addOperand (a : Arguments) (operand : String) : Arguments :=
  { a with operands := a.operands ++ [operand] }

end Arguments

/-- Why a command line asks for nothing to be run. -/
inductive CommandLineStop where
  /-- It is malformed. -/
  | malformed
  /-- It asks for the version. -/
  | version
  /-- It asks for help. -/
  | help
  deriving DecidableEq, Repr

namespace CommandLine

/-- Whether an argument looks like an option, so that it cannot be a value. -/
def looksLikeOption (argument : String) : Bool :=
  match argument.toList with
  | '-' :: _ :: _ => true
  | _ => false

/-- What an argument is. -/
inductive ArgumentKind where
  /-- The mark after which nothing is an option. -/
  | rest
  /-- An option by its name, perhaps with a value after an equals sign. -/
  | long (name : String) (value : Option String)
  /-- A single dash and a letter. -/
  | short (letter : Char)
  | operand
  deriving DecidableEq, Repr

/-- The kind of an argument. -/
def kindOf (argument : String) : ArgumentKind :=
  match argument.toList with
  | ['-', '-'] => .rest
  | '-' :: '-' :: name =>
    match Text.cutFirst ['='] name with
    | some (name, value) => .long (String.ofList name) (some (String.ofList value))
    | none => .long (String.ofList name) none
  | '-' :: letter :: _ => .short letter
  | _ => .operand

/-- Reads arguments by some rules, up to the name of a command if there are commands. The rest of
the arguments is what follows that name. -/
def level (rules : List OptionRule) (commands : List String) (a : Arguments) :
    List String → Except CommandLineStop (Arguments × Option (String × List String))
  | [] => .ok (a, none)
  | argument :: rest =>
    match kindOf argument with
    | .rest => .ok (rest.foldl Arguments.addOperand a, none)
    | .short 'h' => .error .help
    | .short 'V' => .error (if commands.isEmpty then .malformed else .version)
    | .short _ => .error .malformed
    | .long "help" none => .error .help
    | .long name value =>
      if name = "version" && value.isNone && !commands.isEmpty then .error .version
      else
        match rules.find? (fun rule => rule.name == name), value with
        | some rule, some value =>
          match a.add? rule value with
          | some a => level rules commands a rest
          | none => .error .malformed
        | some rule, none =>
          match rest with
          | [] => .error .malformed
          | value :: rest =>
            if looksLikeOption value then .error .malformed
            else
              match a.add? rule value with
              | some a => level rules commands a rest
              | none => .error .malformed
        | none, _ => .error .malformed
    | .operand =>
      if commands.isEmpty then level rules commands (a.addOperand argument) rest
      else if commands.contains argument then .ok (a, some (argument, rest))
      else .error .malformed

/-- The options that all commands take. -/
def generalOptions : List OptionRule :=
  [{ name := "service-name" },
    { name := "base-dir", isPath := true },
    { name := "unit-dir", isPath := true },
    { name := "state-file", isPath := true },
    { name := "systemctl", isPath := true },
    { name := "metrics-textfile", isPath := true }]

/-- The options that say where the inputs are. -/
def inputOptions : List OptionRule :=
  [{ name := "charm-config", isPath := true },
    { name := "database", isPath := true },
    { name := "db-primary" },
    { name := "db-standby", repeats := true },
    { name := "env-file", isPath := true }]

/-- The option that makes a flag active. -/
def flagOption : OptionRule :=
  { name := "flag", repeats := true }

end CommandLine

/-- Where the database is described. -/
inductive DatabaseSource where
  | file (path : Path)
  | given (database : Database)
  deriving DecidableEq, Repr

/-- Where the inputs are. -/
structure Inputs where
  /-- The file of the operator's configuration. -/
  config : Option Path := none
  /-- Where the database is described, if there is one. -/
  database : Option DatabaseSource := none
  /-- The file of the service's environment. -/
  environment : Option Path := none
  deriving DecidableEq, Repr

namespace Inputs

/-- The inputs that options name. A file for the database excludes URIs, and standbys come with
a primary. -/
def ofArguments? (a : Arguments) : Option Inputs :=
  let inputs (database : Option DatabaseSource) : Inputs :=
    ⟨a.path? "charm-config", database, a.path? "env-file"⟩
  match a.path? "database", a.value? "db-primary", a.values "db-standby" with
  | none, none, [] => some (inputs none)
  | some path, none, [] => some (inputs (some (.file path)))
  | none, some primary, standbys => some (inputs (some (.given ⟨primary, standbys⟩)))
  | _, _, _ => none

end Inputs

/-- A command. -/
inductive Command where
  /-- To handle an event, with some flags active. -/
  | hook (event : String) (flags : List String) (inputs : Inputs)
  /-- To print the files of the service. -/
  | render (inputs : Inputs)
  /-- To list the flags that are set. -/
  | flags
  deriving DecidableEq, Repr

/-- What a command line asks for: a command, and a setup that differs from the usual one. -/
structure CommandLine where
  /-- Options before the command. -/
  outer : Arguments
  /-- Options after the command; they win. -/
  inner : Arguments
  command : Command
  deriving DecidableEq, Repr

namespace CommandLine

/-- The names of the commands. -/
def commandNames : List String :=
  ["hook", "render", "flags", "help"]

/-- The command of a name and the arguments after it. -/
def readCommand (name : String) (rest : List String) : Except CommandLineStop (Arguments × Command) :=
  let orMalformed {α : Type} : Option α → Except CommandLineStop α
    | some a => .ok a
    | none => .error .malformed
  match name with
  | "hook" => do
    let (a, _) ← level (generalOptions ++ inputOptions ++ [flagOption]) [] {} rest
    match a.operands with
    | [event] => return (a, .hook event (a.values "flag") (← orMalformed (Inputs.ofArguments? a)))
    | _ => throw .malformed
  | "render" => do
    let (a, _) ← level (generalOptions ++ inputOptions) [] {} rest
    match a.operands with
    | [] => return (a, .render (← orMalformed (Inputs.ofArguments? a)))
    | _ => throw .malformed
  | "flags" => do
    let (a, _) ← level generalOptions [] {} rest
    match a.operands with
    | [] => return (a, .flags)
    | _ => throw .malformed
  | _ =>
    match rest with
    | [] => throw .help
    | [topic] => throw (if commandNames.contains topic then .help else .malformed)
    | _ => throw .malformed

/-- Reads a command line. -/
def read (arguments : List String) : Except CommandLineStop CommandLine := do
  match ← level generalOptions commandNames {} arguments with
  | (outer, some (name, rest)) =>
    let (inner, command) ← readCommand name rest
    return ⟨outer, inner, command⟩
  | (_, none) => throw .malformed

/-- The setup of a process as the command line changes it. -/
def setup (c : CommandLine) (process : Environment) : Setup :=
  let usual := Setup.ofEnvironment process
  let value? (name : String) : Option String := (c.inner.value? name).or (c.outer.value? name)
  let path? (name : String) : Option Path := (value? name).map Path.mk
  { usual with
    serviceName := (value? "service-name").getD usual.serviceName
    baseDirectory := (path? "base-dir").getD usual.baseDirectory
    unitDirectory := (path? "unit-dir").getD usual.unitDirectory
    stateFile := (path? "state-file").getD usual.stateFile
    systemctl := (path? "systemctl").or usual.systemctl
    metricsFile := (path? "metrics-textfile").or usual.metricsFile }

end CommandLine

end Upkeep
