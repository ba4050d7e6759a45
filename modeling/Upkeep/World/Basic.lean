import Upkeep.Collaborators
import Upkeep.Disk.Replace
import Upkeep.Environment
import Upkeep.Log.Event
import Upkeep.Metrics
import Upkeep.Timestamp

/-! The world that the maintainer runs in: files, programs that can be started, the process's own
environment and the time; and what it leaves behind: calls of programs, metrics and a log. -/
namespace Upkeep

/-- A call of a program: its path, then its arguments. -/
abbrev Call := List String

/-- The world. -/
structure World where
  disk : Disk := ∅
  /-- What the programs do, by the names of their places. -/
  tools : SortedMap Tool := ∅
  /-- The environment of the process. -/
  environment : Environment := ∅
  /-- The time. -/
  now : Timestamp
  /-- The calls of programs so far. -/
  calls : List Call := []
  /-- What has been counted so far. -/
  metrics : Metrics := ∅
  /-- What has been logged so far. -/
  log : List Log.Entry := []

namespace World

/-- Logs an event. -/
def logEvent (w : World) (span : Option Log.Span) (event : Log.Event) : World :=
  { w with log := w.log ++ [⟨event, span⟩] }

/-- Counts something. -/
def count (w : World) (counter : Counter) : World :=
  { w with metrics := w.metrics.count counter }

/-- The bit of a mode that lets a file be started. -/
def startBits : Nat := 0o111

/-- Whether a path names a file that can be started. -/
def isExecutable (w : World) (p : Path) : Bool :=
  match w.disk.resolve p with
  | .ok l =>
    match w.disk.get? l with
    | some (.file mode _) => mode &&& startBits != 0
    | _ => false
  | .error _ => false

/-- The variable that lists the directories of programs. -/
def searchVariable : String := "PATH"

/-- The directories of programs, if there are any. -/
def searchDirectories? (w : World) : Option (List Path) :=
  (w.environment.get? searchVariable).map fun list =>
    (list.toList.splitOn ':').map fun piece => ⟨String.ofList piece⟩

/-- The variable that names the home directory. -/
def homeVariable : String := "HOME"

/-- A directory in which a name is looked for: a tilde in front stands for the home directory,
and says nothing where there is none. -/
def expanded? (w : World) (directory : Path) : Option Path :=
  match directory.components with
  | .name "~" :: rest =>
    (w.environment.get? homeVariable).map fun home =>
      rest.foldl (fun path component => path.joinText component.text) ⟨home⟩
  | _ => some directory

/-- Why a program is nowhere to be found. -/
inductive SearchFault where
  | noDirectories
  | notThere
  deriving DecidableEq, Repr

namespace SearchFault

/-- The text that a user sees for a fault. -/
def message : SearchFault → String
  | noDirectories => "no path to search and provided name is not an absolute path"
  | notThere => "cannot find binary path"

end SearchFault

/-- The first program of a name in the directories of programs. -/
def find (w : World) (name : String) : Except SearchFault Path :=
  match w.searchDirectories? with
  | none => .error .noDirectories
  | some directories =>
    let candidates := (directories.filterMap w.expanded?).map fun directory => directory.joinText name
    match candidates.find? w.isExecutable with
    | some path => .ok path
    | none => .error .notThere

/-- How long an argument may be, in bytes. -/
def argumentLimit : Nat := 131071

/-- The program at a path, or why it cannot be started. -/
def startable (w : World) (p : Path) : Except Fault Tool := do
  let l ← w.disk.resolve p
  match w.disk.get? l with
  | some (.file mode _) =>
    if mode &&& startBits = 0 then throw .denied
    else
      match w.tools.get? l.key with
      | some tool => return tool
      | none => throw .notExecutable
  | some .directory => throw .denied
  | none => throw .noSuchFile

/-- Tries paths until a program is found there. That one was denied counts more than that one
was missing. -/
def startFirst (w : World) (otherwise : Fault) : List Path → Except Fault (Path × Tool)
  | [] => .error otherwise
  | p :: rest =>
    match w.startable p with
    | .ok tool => .ok (p, tool)
    | .error .denied => startFirst w .denied rest
    | .error .noSuchFile | .error .notDirectory => startFirst w otherwise rest
    | .error fault => .error fault

/-- The program that a path stands for and where it is. Names without a slash are looked for in
the directories of programs. -/
def locate (w : World) (p : Path) : Except Fault (Path × Tool) :=
  if p.text.toList.contains '/' || p.text.isEmpty then (w.startable p).map (p, ·)
  else w.startFirst .noSuchFile ((w.searchDirectories?.getD []).map fun d => d.join p)

/-- Starts a program and waits for its end. -/
def start (w : World) (p : Path) (arguments : List String) : World × Except Fault Tool :=
  if (p.text :: arguments).any fun text => text.toList.contains '\x00' then
    (w, .error .nulInArgument)
  else
    match w.locate p with
    | .error fault => (w, .error fault)
    | .ok (path, tool) =>
      if arguments.any fun text => argumentLimit < text.utf8ByteSize then
        (w, .error .tooManyArguments)
      else ({ w with calls := w.calls ++ [path.text :: arguments] }, .ok tool)

end World

end Upkeep
