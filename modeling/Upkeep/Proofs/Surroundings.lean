import Upkeep.Reconcile.Basic

/-! What surrounds a service while it is maintained: the files, the flags, what the service manager
last read and what the service was last started from. Any request may be refused and a run may end
after any answer, so what holds after every run holds whatever fails and wherever a run is cut
short. -/
namespace Upkeep

/-- The content of the file that a path names, if it names one. -/
def Disk.content? (d : Disk) (p : Path) : Option ByteArray :=
  (d.read p).toOption

/-- What a service is run from: its unit and its settings, as far as they are there. -/
@[ext]
structure ServedFiles where
  unit : Option ByteArray
  settings : Option ByteArray
  deriving DecidableEq

/-- The surroundings of a service. -/
structure Surroundings where
  disk : Disk
  flags : Flags
  /-- The unit as it was when the service manager last read it. -/
  loaded : Option ByteArray
  /-- The files as they were when the service was last restarted. -/
  started : ServedFiles

/-- Reading tells what a file holds, or is refused. -/
inductive Reads (content : Option ByteArray) : Except Fault ByteArray → Prop where
  | held (bytes : ByteArray) (same : content = some bytes) : Reads content (.ok bytes)
  | missing (none : content = none) : Reads content (.error .noSuchFile)
  | refused (fault : Fault) (other : fault ≠ .noSuchFile) : Reads content (.error fault)

/-- A file is replaced, and the other file of the service is left alone. Of the rest of the disk
nothing is said: directories may have been made on the way. -/
structure Replaced (l : Layout) (path : Path) (bytes : ByteArray) (before after : Disk) : Prop where
  written : after.content? path = some bytes
  unit : path ≠ l.unitPath → after.content? l.unitPath = before.content? l.unitPath
  settings : path ≠ l.configPath → after.content? l.configPath = before.content? l.configPath

/-- Neither file of the service is changed. -/
structure Spared (l : Layout) (before after : Disk) : Prop where
  unit : after.content? l.unitPath = before.content? l.unitPath
  settings : after.content? l.configPath = before.content? l.configPath

namespace Surroundings

/-- The files of a service as they are. -/
def files (s : Surroundings) (l : Layout) : ServedFiles :=
  ⟨s.disk.content? l.unitPath, s.disk.content? l.configPath⟩

/-- How a request may be answered, and what that does. A request that is refused leaves its target
as it was. Nobody else edits the files of the service: the flags are kept elsewhere, and commands
and reports touch no file. -/
def Step (l : Layout) (s : Surroundings) : (r : Request) → Answer r → Surroundings → Prop
  | .read path, answer, t => t = s ∧ Reads (s.disk.content? path) answer
  | .write path bytes _, .ok (), t =>
    ∃ disk, Replaced l path bytes s.disk disk ∧ t = { s with disk }
  | .write _ _ _, .error _, t => ∃ disk, Spared l s.disk disk ∧ t = { s with disk }
  | .getFlag name, answer, t => t = s ∧ ∀ value, answer = .ok value → value = s.flags.isSet name
  | .setFlag name value, .ok (), t =>
    ∃ disk, Spared l s.disk disk ∧ t = { s with disk, flags := s.flags.insert name value }
  | .setFlag _ _, .error _, t => ∃ disk, Spared l s.disk disk ∧ t = { s with disk }
  | .reloadUnits, .ok (), t => t = { s with loaded := (s.files l).unit }
  | .restart _, .ok (), t => t = { s with started := s.files l }
  | .reloadUnits, .error _, t | .restart _, .error _, t => t = s
  | .report _ _, _, t | .log _, _, t | .count _, _, t | .observeDuration, _, t => t = s

end Surroundings

/-- A request and its answer. -/
structure Exchange where
  request : Request
  answer : Answer request

/-- Whether a request was refused. That a file is not there is an answer like any other. -/
def Exchange.failed : Exchange → Bool
  | ⟨.read _, .error .noSuchFile⟩ => false
  | ⟨.read _, .error _⟩ | ⟨.write _ _ _, .error _⟩ | ⟨.getFlag _, .error _⟩
  | ⟨.setFlag _ _, .error _⟩ | ⟨.reloadUnits, .error _⟩ | ⟨.restart _, .error _⟩
  | ⟨.report _ _, .error _⟩ => true
  | _ => false

/-- Runs of a program up to any point: what has been asked and answered, what is left of the
program, and what the surroundings have become. A run is complete when nothing is left to ask. -/
inductive Program.Runs {α : Type} (l : Layout) :
    Program α → Surroundings → List Exchange → Program α → Surroundings → Prop where
  | here (p : Program α) (s : Surroundings) : Runs l p s [] p s
  | ask {r : Request} {next : Answer r → Program α} {answer : Answer r} {s t u : Surroundings}
      {exchanges : List Exchange} {rest : Program α}
      (step : s.Step l r answer t) (more : Runs l (next answer) t exchanges rest u) :
      Runs l (.ask r next) s (⟨r, answer⟩ :: exchanges) rest u

/-- Every request may be answered. -/
theorem Surroundings.exists_step (l : Layout) (s : Surroundings) (r : Request) :
    ∃ answer t, s.Step l r answer t := by
  cases r with
  | read path =>
    cases content : s.disk.content? path with
    | none => exact ⟨.error .noSuchFile, s, rfl, content ▸ .missing rfl⟩
    | some bytes => exact ⟨.ok bytes, s, rfl, content ▸ .held bytes rfl⟩
  | write path bytes mode => exact ⟨.error .noSuchFile, s, s.disk, ⟨rfl, rfl⟩, rfl⟩
  | getFlag name => exact ⟨.ok (s.flags.isSet name), s, rfl, fun _ same => (Except.ok.inj same).symm⟩
  | setFlag name value =>
    exact ⟨.ok (), { s with flags := s.flags.insert name value }, s.disk, ⟨rfl, rfl⟩, rfl⟩
  | reloadUnits => exact ⟨.ok (), { s with loaded := (s.files l).unit }, rfl⟩
  | restart unit => exact ⟨.ok (), { s with started := s.files l }, rfl⟩
  | report state message => exact ⟨.ok (), s, rfl⟩
  | log event => exact ⟨(), s, rfl⟩
  | count counter => exact ⟨(), s, rfl⟩
  | observeDuration => exact ⟨(), s, rfl⟩

/-- No run gets stuck: one that was cut short could have come to its end. -/
theorem Program.Runs.exists_complete {α : Type} {l : Layout} {p q : Program α} {s t : Surroundings}
    {exchanges : List Exchange} (runs : p.Runs l s exchanges q t) :
    ∃ more result u, p.Runs l s (exchanges ++ more) (.done result) u := by
  induction runs with
  | here p s =>
    induction p generalizing s with
    | done result => exact ⟨[], result, s, .here _ s⟩
    | ask r next ih =>
      obtain ⟨answer, t, step⟩ := s.exists_step l r
      obtain ⟨more, result, u, rest⟩ := ih answer t
      exact ⟨⟨r, answer⟩ :: more, result, u, .ask step rest⟩
  | ask step _ ih =>
    obtain ⟨more, result, u, rest⟩ := ih
    exact ⟨more, result, u, .ask step rest⟩

/-- A command of the service manager. -/
inductive ServiceCommand where
  | reloadUnits
  | restart (unit : String)
  deriving DecidableEq, Repr

/-- What a run has asked for. -/
structure Footprint where
  /-- Files that were read. -/
  reads : List Path := []
  /-- Files that were to be replaced. -/
  writes : List Path := []
  /-- Flags that were to get a value. -/
  marks : List (String × Bool) := []
  /-- Commands that were given, and how they went. -/
  commands : List (ServiceCommand × Except ServiceFault Unit) := []
  /-- What was to be reported. -/
  reports : List (WorkloadState × String) := []
  /-- Whether anything was refused. -/
  failed : Bool := false

namespace Footprint

def read (f : Footprint) (path : Path) : Footprint :=
  { f with reads := f.reads ++ [path] }

def write (f : Footprint) (path : Path) : Footprint :=
  { f with writes := f.writes ++ [path] }

def mark (f : Footprint) (name : String) (value : Bool) : Footprint :=
  { f with marks := f.marks ++ [(name, value)] }

def command (f : Footprint) (command : ServiceCommand) (answer : Except ServiceFault Unit) : Footprint :=
  { f with commands := f.commands ++ [(command, answer)] }

def report (f : Footprint) (state : WorkloadState) (message : String) : Footprint :=
  { f with reports := f.reports ++ [(state, message)] }

/-- The footprint when a request is refused on top. -/
def refused (f : Footprint) : Footprint :=
  { f with failed := true }

/-- The footprint after one more exchange. -/
def add (f : Footprint) (e : Exchange) : Footprint :=
  let f := if e.failed then f.refused else f
  match e with
  | ⟨.read path, _⟩ => f.read path
  | ⟨.write path _ _, _⟩ => f.write path
  | ⟨.setFlag name value, _⟩ => f.mark name value
  | ⟨.reloadUnits, answer⟩ => f.command .reloadUnits answer
  | ⟨.restart unit, answer⟩ => f.command (.restart unit) answer
  | ⟨.report state message, _⟩ => f.report state message
  | ⟨.getFlag _, _⟩ | ⟨.log _, _⟩ | ⟨.count _, _⟩ | ⟨.observeDuration, _⟩ => f

/-- The footprint of some exchanges. -/
def of (exchanges : List Exchange) : Footprint :=
  exchanges.foldl add {}

theorem failed_add (f : Footprint) (e : Exchange) :
    (f.add e).failed = (f.failed || e.failed) := by
  obtain ⟨request, answer⟩ := e
  unfold add
  cases refused : Exchange.failed ⟨request, answer⟩ <;> cases request <;> simp <;> rfl

theorem failed_foldl_add (f : Footprint) (exchanges : List Exchange) :
    (exchanges.foldl add f).failed = (f.failed || exchanges.any Exchange.failed) := by
  induction exchanges generalizing f with
  | nil => simp
  | cons e rest ih => rw [List.foldl_cons, ih, failed_add, List.any_cons, Bool.or_assoc]

/-- Nothing failed when no exchange did. -/
theorem failed_of (exchanges : List Exchange) :
    (of exchanges).failed = exchanges.any Exchange.failed :=
  failed_foldl_add {} exchanges

end Footprint

end Upkeep
