import Upkeep.Proofs.Flags.Setting
import Upkeep.Proofs.Reconcile.Order
import Upkeep.World.Host

/-! What a reconciliation does to the world that answers it. A disk changes in few ways only: one of
the two files is replaced as it is rendered, or the file of the flags is, after a flag was given a
value. All else leaves the files alone, and only the service manager's own requests give it
commands. -/
namespace Upkeep

namespace World

/-- Whether a call is a command to the service manager. -/
def isCommand : Call → Bool
  | [_, "daemon-reload"] => true
  | [_, "restart", _] => true
  | _ => false

/-- The commands that the service manager has been given so far. -/
def commands (w : World) : List Call :=
  w.calls.filter isCommand

/-- The files are the same, and the same commands have been given. -/
structure Alike (w w' : World) : Prop where
  disk : w'.disk = w.disk
  commands : w'.commands = w.commands

theorem Alike.refl (w : World) : w.Alike w :=
  ⟨rfl, rfl⟩

theorem Alike.trans {w w' w'' : World} (first : w.Alike w') (second : w'.Alike w'') :
    w.Alike w'' :=
  ⟨second.disk.trans first.disk, second.commands.trans first.commands⟩

theorem alike_logEvent (w : World) (span : Option Log.Span) (event : Log.Event) :
    w.Alike (w.logEvent span event) :=
  ⟨rfl, rfl⟩

/-- A program is started where it is found, and one call is recorded, or nothing happens. -/
theorem start_cases (w : World) (p : Path) (arguments : List String) :
    (∃ fault, w.start p arguments = (w, .error fault)) ∨
      ∃ path tool, w.locate p = .ok (path, tool) ∧
        w.start p arguments = ({ w with calls := w.calls ++ [path.text :: arguments] }, .ok tool) := by
  unfold start
  split
  · exact .inl ⟨_, rfl⟩
  · split
    · exact .inl ⟨_, rfl⟩
    · rename_i path tool found
      split
      · exact .inl ⟨_, rfl⟩
      · exact .inr ⟨path, tool, found, rfl⟩

/-- Starting a program records one call, or nothing where it cannot be started. -/
theorem start_eq (w : World) (p : Path) (arguments : List String) :
    (w.start p arguments).1 = w ∨
      ∃ path : Path, (w.start p arguments).1 = { w with calls := w.calls ++ [path.text :: arguments] } := by
  rcases w.start_cases p arguments with ⟨fault, failed⟩ | ⟨path, tool, -, started⟩
  · exact .inl (congrArg Prod.fst failed)
  · exact .inr ⟨path, congrArg Prod.fst started⟩

/-- Starting a program leaves nothing but a call. -/
theorem start_leaves (w : World) (p : Path) (arguments : List String) :
    ∃ calls, (w.start p arguments).1 = { w with calls } := by
  rcases w.start_eq p arguments with same | ⟨path, recorded⟩
  · exact ⟨w.calls, same⟩
  · exact ⟨_, recorded⟩

theorem start_disk (w : World) (p : Path) (arguments : List String) :
    (w.start p arguments).1.disk = w.disk := by
  rcases w.start_eq p arguments with same | ⟨path, recorded⟩
  · rw [same]
  · rw [recorded]

variable {w w' : World} {p : Path}

theorem startable_congr (disk : w'.disk = w.disk) (tools : w'.tools = w.tools) :
    w'.startable p = w.startable p := by
  simp only [startable, disk, tools]

/-- Where a program is found depends on the files, the programs and the environment only. -/
theorem locate_congr (disk : w'.disk = w.disk) (tools : w'.tools = w.tools)
    (environment : w'.environment = w.environment) : w'.locate p = w.locate p := by
  have first (otherwise : Fault) (paths : List Path) :
      w'.startFirst otherwise paths = w.startFirst otherwise paths := by
    induction paths generalizing otherwise with
    | nil => rfl
    | cons path rest ih => simp only [startFirst, startable_congr disk tools, ih]
  simp only [locate, startable_congr disk tools, searchDirectories?, environment, first]

/-- What comes of starting a program depends on these only as well. -/
theorem start_congr (disk : w'.disk = w.disk) (tools : w'.tools = w.tools)
    (environment : w'.environment = w.environment) (arguments : List String) :
    (w'.start p arguments).2 = (w.start p arguments).2 := by
  simp only [start, locate_congr disk tools environment]
  split
  · rfl
  · split
    · rfl
    · split <;> rfl

end World

/-- What reports tell is no command. -/
theorem World.isCommand_report (path : Path) (state : WorkloadState) (message : String) :
    isCommand [path.text, state.name, message] = false := by
  cases state <;> simp [isCommand, WorkloadState.name]

namespace Reporter

/-- Reporting leaves the files alone and gives no command. -/
theorem report_alike (r : Reporter) (span : Option Log.Span) (state : WorkloadState)
    (message : String) (w : World) : w.Alike (r.report span state message w).1 := by
  cases r with
  | log => exact w.alike_logEvent span _
  | tool path =>
    have started : w.Alike ((w.logEvent span (.settingStatus path state message)).start path
        [state.name, message]).1 := by
      apply (w.alike_logEvent span _).trans
      generalize w.logEvent span (.settingStatus path state message) = v
      rcases v.start_eq path [state.name, message] with same | ⟨found, recorded⟩
      · rw [same]
        exact .refl v
      · rw [recorded]
        refine ⟨rfl, ?_⟩
        simp only [World.commands, List.filter_append, List.filter_cons, List.filter_nil,
          World.isCommand_report, Bool.false_eq_true, ↓reduceIte, List.append_nil]
    simp only [report]
    generalize (w.logEvent span (.settingStatus path state message)).start path
      [state.name, message] = outcome at started
    obtain ⟨v, fault | run⟩ := outcome
    · exact started
    · simp only
      split
      · exact started
      · exact started

theorem discover_alike (w : World) : w.Alike (discover w).1 := by
  unfold discover
  split
  · exact .refl w
  · exact w.alike_logEvent _ _

end Reporter

namespace Systemctl

/-- Commands leave the files alone. -/
theorem run_disk (s : Systemctl) (span : Option Log.Span) (label : String)
    (arguments : List String) (w : World) : (s.run span label arguments w).1.disk = w.disk := by
  have started := ((w.logEvent span (.runningCommand
    (" ".intercalate (s.program.text :: arguments)))).count (.command label)).start_disk s.program
      arguments
  simp only [run]
  generalize World.start _ s.program arguments = outcome at started
  obtain ⟨v, fault | tool⟩ := outcome
  · exact started
  · simp only
    split
    · exact started
    · exact started

theorem reloadUnits_disk (s : Systemctl) (span : Option Log.Span) (w : World) :
    (s.reloadUnits span w).1.disk = w.disk := by
  have ran := s.run_disk span "daemon-reload" ["daemon-reload"] w
  unfold reloadUnits
  generalize s.run span "daemon-reload" ["daemon-reload"] w = outcome at ran
  obtain ⟨v, fault | done⟩ := outcome
  · exact ran
  · exact ran

theorem restart_disk (s : Systemctl) (span : Option Log.Span) (unit : String) (w : World) :
    (s.restart span unit w).1.disk = w.disk := by
  have ran := s.run_disk span "restart" ["restart", unit] w
  unfold restart
  split
  · generalize s.run span "restart" ["restart", unit] w = outcome at ran
    obtain ⟨v, fault | done⟩ := outcome
    · exact ran
    · exact ran
  · rfl

end Systemctl

/-- What giving a flag a value does to the disk: nothing, or the file of the flags is replaced by
what was read from it with that value put in. -/
theorem FlagFile.set_changes (f : FlagFile) (now : Timestamp) (name : String) (value : Bool)
    (d : Disk) : (f.set now name value d).1 = d ∨
      ∃ document result, f.load d = .ok document ∧
        Disk.Replacing d f.path
          (Flags.Document.print ⟨document.flags.insert name value, some now⟩).toUTF8 mode
          ((f.set now name value d).1, result) := by
  have setting := setting (fun _ => none) f now name value d
  rw [setWith_none] at setting
  generalize f.set now name value d = outcome at setting ⊢
  cases setting with
  | unloaded load => exact .inl rfl
  | alreadySet load same => exact .inl rfl
  | persisted load replacing => exact .inr ⟨_, _, load, replacing⟩
  | refused load replacing => exact .inr ⟨_, _, load, replacing⟩

namespace Equipment

variable {e : Equipment} {r : Request} {w : World}

theorem host_eq (e : Equipment) (r : Request) (w : World) :
    e.host r w = ((e.answer r w).2, (e.answer r w).1) :=
  rfl

/-- Quiet requests leave the files alone and give no command. -/
theorem alike_of_quiet (quiet : r.isQuiet = true) : w.Alike (e.answer r w).1 := by
  cases r with
  | report state message => exact e.reporter.report_alike e.span state message w
  | log event => exact w.alike_logEvent e.span event
  | read path => exact .refl w
  | getFlag name => exact .refl w
  | count counter => exact ⟨rfl, rfl⟩
  | observeDuration => exact ⟨rfl, rfl⟩
  | write path content mode => cases quiet
  | setFlag name value => cases quiet
  | reloadUnits => cases quiet
  | restart unit => cases quiet

theorem setFlag_disk (e : Equipment) (name : String) (value : Bool) (w : World) :
    (e.setFlag name value w).1.disk = (e.flags.set w.now name value w.disk).1 := by
  unfold setFlag
  generalize e.flags.set w.now name value w.disk = outcome
  obtain ⟨disk, fault | change⟩ := outcome
  · rfl
  · cases change with
    | alreadySet => rfl
    | persisted => rfl

theorem write_eq (p : Path) (content : ByteArray) (mode : Nat) (w : World) :
    write p content mode w = ({ w with disk := (w.disk.replace p content mode).1 },
      (w.disk.replace p content mode).2) := by
  unfold write
  generalize w.disk.replace p content mode = ended
  rfl

/-- Replacing a file changes nothing else, however it ends. -/
theorem write_replacing (path : Path) (content : ByteArray) (mode : Nat) (w : World) :
    Disk.Replacing w.disk path content mode
      ((write path content mode w).1.disk, (write path content mode w).2) := by
  have replacing := Disk.replacing (fun _ => none) w.disk path content mode
  unfold write Disk.replace
  generalize Disk.replaceWith _ w.disk path content mode = outcome at replacing
  exact replacing

end Equipment

/-- Reading a file as it is leaves the world alone. -/
theorem Artifact.readCurrent_run (a : Artifact) (e : Equipment) (w : World) :
    a.readCurrent.run.run e.host w = (current? a.path (w.disk.read a.path), w) :=
  rfl

/-- What one request of a reconciliation may do to the disk. -/
inductive Change (s : Service) (files : ServiceFiles) (kept : FlagFile) (d : Disk) : Disk → Prop where
  | same : Change s files kept d d
  | unit {d' : Disk} {result : Except Fault Unit}
      (replacing : Disk.Replacing d files.unit.path files.unit.bytes files.unit.mode (d', result)) :
      Change s files kept d d'
  | settings {d' : Disk} {result : Except Fault Unit}
      (replacing : Disk.Replacing d files.settings.path files.settings.bytes files.settings.mode
        (d', result)) :
      Change s files kept d d'
  | flag {d' : Disk} {last : Option Exchange} {name : String} {value : Bool} {now : Timestamp}
      {document : Flags.Document} {result : Except Fault Unit} (touch : Touch s last name value)
      (loaded : kept.load d = .ok document)
      (replacing : Disk.Replacing d kept.path
        (Flags.Document.print ⟨document.flags.insert name value, some now⟩).toUTF8 FlagFile.mode
        (d', result)) :
      Change s files kept d d'

/-- A request that comes in turn changes the disk in one of these ways. -/
theorem Turn.change {s : Service} {files : ServiceFiles} {last : Option Exchange} {r : Request}
    (turn : Turn s files last r) (e : Equipment) (w : World) :
    Change s files e.flags w.disk (e.answer r w).1.disk := by
  cases turn with
  | quiet calm quiet =>
    rw [(Equipment.alike_of_quiet quiet).disk]
    exact .same
  | writeUnit calm => exact .unit (Equipment.write_replacing _ _ _ w)
  | writeSettings calm => exact .settings (Equipment.write_replacing _ _ _ w)
  | reload calm =>
    have same : (e.answer .reloadUnits w).1.disk = w.disk := e.manager.reloadUnits_disk e.span w
    rw [same]
    exact .same
  | restart calm =>
    have same : (e.answer (.restart s.layout.serviceName) w).1.disk = w.disk :=
      e.manager.restart_disk e.span _ w
    rw [same]
    exact .same
  | @touch name value touch =>
    have disk : (e.answer (.setFlag name value) w).1.disk = (e.flags.set w.now name value w.disk).1 :=
      e.setFlag_disk name value w
    rw [disk]
    rcases e.flags.set_changes w.now name value w.disk with same | ⟨document, result, loaded, replacing⟩
    · rw [same]
      exact .same
    · exact .flag touch loaded replacing

namespace Reconciliation

variable {r : Reconciliation} {files : ServiceFiles} {e : Equipment} {w : World}

/-- What every way to change the disk keeps holds of it when a call has ended. -/
theorem disk_of_run {kept : Disk → Prop} (rendered : r.rendering = .ok files)
    (keeps : ∀ d d', Change r.service files e.flags d d' → kept d → kept d')
    (start : kept w.disk) : kept (r.program.run e.host w).2.disk := by
  let keptBy (w : World) := kept w.disk
  refine r.program_inTurn.run_keeps keptBy ?_ start
  intro last q w turn before
  cases turn with
  | quiet calm quiet =>
    have same : (e.host q w).2.disk = w.disk := (Equipment.alike_of_quiet quiet).disk
    simp only [keptBy, same]
    exact before
  | converging due same turn =>
    cases same.symm.trans rendered
    exact keeps _ _ (turn.change e w) before

/-- A call that is skipped, or whose files cannot be rendered, leaves the files alone and gives no
command. -/
theorem alike_of_run (idle : r.IsDue → ∀ files, r.rendering ≠ .ok files) :
    w.Alike (r.program.run e.host w).2 := by
  refine r.program_inTurn.run_keeps w.Alike ?_ (.refl w)
  intro last q v turn before
  cases turn with
  | quiet calm quiet => exact before.trans (Equipment.alike_of_quiet quiet)
  | converging due rendered turn => exact absurd rendered (idle due _)

end Reconciliation

end Upkeep
