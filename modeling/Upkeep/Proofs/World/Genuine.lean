import Upkeep.Proofs.Config
import Upkeep.Proofs.World.Hook

/-! Nothing but a genuine configuration is ever put in place. Whenever handling an event changes a
file or gives the service manager a command, the event is no poll, the base is configured, there is
a database whose URIs have been checked, and what is written is rendered from the inputs as they
were loaded. -/
namespace Upkeep

namespace Setup

/-- The flags are not kept where one of the service's files lies. -/
structure StateApart (s : Setup) : Prop where
  state_unit : s.stateFile.place ≠ s.layout.unitPath.place
  state_settings : s.stateFile.place ≠ s.layout.configPath.place

/-- The files that the maintainer itself writes lie at places of their own. -/
structure Separate (s : Setup) : Prop extends StateApart s where
  unit_settings : s.layout.unitPath.place ≠ s.layout.configPath.place
  metrics : ∀ path, s.metricsFile = some path → path.place ≠ s.layout.unitPath.place ∧
    path.place ≠ s.layout.configPath.place ∧ path.place ≠ s.stateFile.place

namespace Separate

variable {s : Setup} {files : ServiceFiles} {a : Artifact}

theorem apart (separate : s.Separate) (lie : files.LieAt s.layout) :
    files.unit.path.place ≠ files.settings.path.place := by
  rw [lie.unit, lie.settings]
  exact separate.unit_settings

theorem apartState (separate : s.Separate) (lie : files.LieAt s.layout)
    (own : a = files.unit ∨ a = files.settings) : a.path.place ≠ s.stateFile.place := by
  rcases own with rfl | rfl
  · rw [lie.unit]
    exact separate.state_unit.symm
  · rw [lie.settings]
    exact separate.state_settings.symm

theorem apartMetrics (separate : s.Separate) (lie : files.LieAt s.layout)
    (own : a = files.unit ∨ a = files.settings) (path : Path) (given : s.metricsFile = some path) :
    a.path.place ≠ path.place := by
  rcases own with rfl | rfl
  · rw [lie.unit]
    exact (separate.metrics path given).1.symm
  · rw [lie.settings]
    exact (separate.metrics path given).2.1.symm

end Separate

end Setup

namespace Change

variable {s : Service} {files : ServiceFiles} {kept : FlagFile} {d d' : Disk} {a : Artifact}

/-- A change of the disk replaces a file of the service, or it spares it. -/
theorem replaces_or_spares (change : Change s files kept d d')
    (own : a = files.unit ∨ a = files.settings)
    (apart : files.unit.path.place ≠ files.settings.path.place)
    (apartState : a.path.place ≠ kept.path.place) :
    (∃ result, Disk.Replacing d a.path a.bytes a.mode (d', result)) ∨
      Disk.Passable d d' ∧ d'.file? a.path.place = d.file? a.path.place := by
  have proper := Disk.place_proper a.path
  cases change with
  | same => exact .inr ⟨⟨fun _ => id, fun _ => id⟩, rfl⟩
  | unit replacing =>
    rcases own with rfl | rfl
    · exact .inl ⟨_, replacing⟩
    · exact .inr ⟨replacing.passable, replacing.file?_other proper apart.symm⟩
  | settings replacing =>
    rcases own with rfl | rfl
    · exact .inr ⟨replacing.passable, replacing.file?_other proper apart⟩
    · exact .inl ⟨_, replacing⟩
  | flag touch loaded replacing =>
    exact .inr ⟨replacing.passable, replacing.file?_other proper apartState⟩

/-- A file of the service stays as it is, or it becomes what is rendered. -/
theorem file?_or (change : Change s files kept d d') (own : a = files.unit ∨ a = files.settings)
    (apart : files.unit.path.place ≠ files.settings.path.place)
    (apartState : a.path.place ≠ kept.path.place) (mode : Disk.keptMode a.mode = a.mode) :
    d'.file? a.path.place = d.file? a.path.place ∨
      d'.file? a.path.place = some (a.mode, a.bytes) := by
  rcases change.replaces_or_spares own apart apartState with ⟨result, replacing⟩ | ⟨-, same⟩
  · rcases replacing.file?_self with same | ⟨-, placed⟩
    · exact .inl same
    · exact .inr (placed.trans (by rw [mode]))
  · exact .inl same

/-- A file of the service that is in place stays in place. -/
theorem content?_kept (change : Change s files kept d d')
    (own : a = files.unit ∨ a = files.settings)
    (apart : files.unit.path.place ≠ files.settings.path.place)
    (apartState : a.path.place ≠ kept.path.place)
    (inPlace : d.content? a.path = some a.bytes) : d'.content? a.path = some a.bytes := by
  rcases change.replaces_or_spares own apart apartState with ⟨result, replacing⟩ | ⟨passable, same⟩
  · exact replacing.content?_again inPlace
  · exact passable.content?_eq same inPlace

end Change

namespace Setup

open Reconciliation (alike_of_run disk_of_run)

variable {s : Setup} {event : String} {flags : List String} {inputs : Inputs} {w : World}

/-- Writing metrics concerns no file at another place. -/
theorem file?_writeMetrics {l : Location} (proper : l.Proper)
    (apart : ∀ path, s.metricsFile = some path → l ≠ path.place) :
    (s.writeMetrics w).disk.file? l = w.disk.file? l := by
  obtain ⟨-, same | ⟨path, result, given, replacing⟩⟩ := s.writeMetrics_effect w
  · rw [same]
  · exact replacing.file?_other proper (apart path given)

/-- A command changes one of the files that the maintainer keeps, or gives the service manager a
command. -/
def Changes (s : Setup) (command : Command) (w : World) : Prop :=
  let after := s.perform command w
  after.disk.file? s.layout.unitPath.place ≠ w.disk.file? s.layout.unitPath.place ∨
    after.disk.file? s.layout.configPath.place ≠ w.disk.file? s.layout.configPath.place ∨
    after.disk.file? s.stateFile.place ≠ w.disk.file? s.stateFile.place ∨
    after.commands ≠ w.commands

/-- A command that leaves all files alone and gives no command changes nothing, with the metrics
that follow it. -/
theorem not_changes_of_alike {command : Command} (separate : s.Separate)
    (alike : w.Alike (s.run command w).1) : ¬ s.Changes command w := by
  have same {l : Location} (proper : l.Proper)
      (apart : ∀ path, s.metricsFile = some path → l ≠ path.place) :
      (s.perform command w).disk.file? l = w.disk.file? l := by
    rw [perform, file?_writeMetrics proper apart, alike.disk]
  rintro (unit | settings | state | commands)
  · exact unit (same (Disk.place_proper _) fun path given => (separate.metrics path given).1.symm)
  · exact settings
      (same (Disk.place_proper _) fun path given => (separate.metrics path given).2.1.symm)
  · exact state
      (same (Disk.place_proper _) fun path given => (separate.metrics path given).2.2.symm)
  · apply commands
    rw [perform, s.commands_writeMetrics, alike.commands]

/-- An event that is no poll reaches the reconciler with inputs that could all be loaded and from
which both files could be rendered, and the reconciler runs. -/
structure Reconciles (s : Setup) (event : String) (flags : List String) (inputs : Inputs) (w w' : World)
    (loaded : HookInputs) (database : Database) (operator : Config) (files : ServiceFiles) : Prop where
  notPoll : event ≠ s.pollEvent
  reaches : s.Reaches event flags inputs w loaded
  loads : Loads event inputs w loaded database operator
  rendered : (s.reconciliation loaded).rendering = .ok files
  runs : ∃ (e : Equipment) (start : World), e.flags = s.flagFile ∧ w.Alike start ∧
    ((s.reconciliation loaded).program.run e.host start).2.Alike w'

/-- Handling an event leaves all files alone, or it reconciles the service. -/
theorem alike_or_reconciles (s : Setup) (event : String) (flags : List String) (inputs : Inputs)
    (w : World) : w.Alike (s.hook event flags inputs w).1 ∨
      ∃ loaded database operator files, s.Reconciles event flags inputs w
        (s.hook event flags inputs w).1 loaded database operator files := by
  have course := s.hook_course event flags inputs w
  generalize s.hook event flags inputs w = outcome at course
  cases course with
  | stopped alike unreached => exact .inl alike
  | @reconciled w' start result loaded e reaches equipped begins ends succeeds =>
    by_cases due : (s.reconciliation loaded).IsDue
    · cases rendered : (s.reconciliation loaded).rendering with
      | error fault =>
        have idle (_ : (s.reconciliation loaded).IsDue) (files : ServiceFiles) :
            (s.reconciliation loaded).rendering ≠ .ok files := by
          intro other
          cases rendered.symm.trans other
        exact .inl ((begins.trans (alike_of_run idle)).trans ends)
      | ok files =>
        obtain ⟨notPoll, database, operator, loads⟩ := loads_of_due reaches.loads due
        exact .inr ⟨loaded, database, operator, files, notPoll, reaches, loads, rendered, e, start,
          equipped, begins, ends⟩
    · have idle (isDue : (s.reconciliation loaded).IsDue) (files : ServiceFiles) :
          (s.reconciliation loaded).rendering ≠ .ok files := absurd isDue due
      exact .inl ((begins.trans (alike_of_run idle)).trans ends)

/-- Where handling an event changes something, it reconciles the service. -/
theorem reconciles_of_changes (separate : s.Separate)
    (changes : s.Changes (.hook event flags inputs) w) :
    ∃ loaded database operator files, s.Reconciles event flags inputs w
      (s.hook event flags inputs w).1 loaded database operator files := by
  rcases s.alike_or_reconciles event flags inputs w with alike | reconciles
  · exact absurd changes (not_changes_of_alike separate alike)
  · exact reconciles

/-- What every way to change the disk keeps holds of it when a service has been reconciled. -/
theorem Reconciles.disk {w' : World} {loaded : HookInputs} {database : Database} {operator : Config}
    {files : ServiceFiles} {kept : Disk → Prop}
    (reconciles : s.Reconciles event flags inputs w w' loaded database operator files)
    (keeps : ∀ d d', Change s.service files s.flagFile d d' → kept d → kept d')
    (start : kept w.disk) : kept w'.disk := by
  obtain ⟨e, begun, equipped, begins, ends⟩ := reconciles.runs
  rw [ends.disk]
  apply disk_of_run reconciles.rendered
  · rw [equipped]
    exact keeps
  · rwa [begins.disk]

/-- A file that every change leaves alone or replaces by the same one is as it was or has been
replaced. -/
theorem Reconciles.file?_or {w' : World} {loaded : HookInputs} {database : Database}
    {operator : Config} {files : ServiceFiles} {l : Location} {file : Option (Nat × ByteArray)}
    (reconciles : s.Reconciles event flags inputs w w' loaded database operator files)
    (changes : ∀ d d', Change s.service files s.flagFile d d' →
      d'.file? l = d.file? l ∨ d'.file? l = file) :
    w'.disk.file? l = w.disk.file? l ∨ w'.disk.file? l = file := by
  let kept (d : Disk) := d.file? l = w.disk.file? l ∨ d.file? l = file
  have keeps (d d' : Disk) (change : Change s.service files s.flagFile d d') (before : kept d) :
      kept d' := by
    rcases changes d d' change with same | replaced
    · rcases before with untouched | replaced
      · exact .inl (same.trans untouched)
      · exact .inr (same.trans replaced)
    · exact .inr replaced
  exact reconciles.disk keeps (.inl rfl)

/-- What handling an event puts in place is genuine: all of it is rendered from the inputs as they
were loaded, and these have been checked. -/
structure Genuine (s : Setup) (inputs : Inputs) (w after : World) (database : Database)
    (environment : Environment) (operator : Config) (files : ServiceFiles) : Prop where
  database_loads : inputs.loadDatabase w = .ok (some database)
  schemes : ∀ uri ∈ database.primary :: database.standbys,
    uri.startsWith "postgres://" = true ∨ uri.startsWith "postgresql://" = true
  environment_loads : inputs.loadEnvironment w = .ok environment
  config_loads : inputs.loadConfig w = .ok operator
  main : (Config.desired operator database environment).get? Config.mainDatabaseKey =
    some (.text database.primary)
  rendered : s.service.render environment (Config.desired operator database environment) = .ok files
  settings_rendered :
    (Config.desired operator database environment).settings = .ok files.settings.content
  unit_file : after.disk.file? s.layout.unitPath.place = w.disk.file? s.layout.unitPath.place ∨
    after.disk.file? s.layout.unitPath.place = some (files.unit.mode, files.unit.bytes)
  settings_file :
    after.disk.file? s.layout.configPath.place = w.disk.file? s.layout.configPath.place ∨
      after.disk.file? s.layout.configPath.place = some (files.settings.mode, files.settings.bytes)

/-- What a reconciliation puts in place is genuine. -/
theorem Reconciles.genuine {w' : World} {loaded : HookInputs} {database : Database}
    {operator : Config} {files : ServiceFiles} (separate : s.Separate)
    (reconciles : s.Reconciles event flags inputs w w' loaded database operator files) :
    s.Genuine inputs w (s.writeMetrics w') database loaded.environment operator files := by
  have loads := reconciles.loads
  have rendered : s.service.render loaded.environment
      (Config.desired operator database loaded.environment) = .ok files := by
    rw [← loads.desired]
    exact reconciles.rendered
  have lie : files.LieAt s.layout := Service.lieAt_of_render rendered
  have became {a : Artifact} (own : a = files.unit ∨ a = files.settings) :
      (s.writeMetrics w').disk.file? a.path.place = w.disk.file? a.path.place ∨
        (s.writeMetrics w').disk.file? a.path.place = some (a.mode, a.bytes) := by
    rw [file?_writeMetrics (Disk.place_proper a.path) (separate.apartMetrics lie own)]
    exact reconciles.file?_or fun d d' change =>
      change.file?_or own (separate.apart lie) (separate.apartState lie own)
        (Service.keptMode_of_render rendered own)
  constructor
  case database_loads => exact loads.database_loads
  case environment_loads => exact loads.environment_loads
  case config_loads => exact loads.config_loads
  case main => exact Config.mainDatabase_desired operator database loaded.environment
  case rendered => exact rendered
  case schemes =>
    intro uri listed
    have checked := Inputs.hasDatabaseScheme_of_loadDatabase loads.database_loads uri listed
    rw [hasDatabaseScheme, Bool.or_eq_true] at checked
    exact checked
  case settings_rendered =>
    obtain ⟨unit, settings, -, settings_rendered, rfl⟩ := Service.eq_of_render rendered
    exact settings_rendered
  case unit_file =>
    rw [← lie.unit]
    exact became (.inl rfl)
  case settings_file =>
    rw [← lie.settings]
    exact became (.inr rfl)

/-- What an event is handled with was loaded, or it is never looked at. -/
theorem loads_or_unseen {loaded : HookInputs} (loads : s.loadHook event inputs w = .ok loaded) :
    (∃ database operator, Loads event inputs w loaded database operator) ∨
      ∀ environment config, (s.reconciliation loaded).program =
        s.service.reconcile environment config loaded.trigger := by
  -- Placeholders stand in where nothing was loaded, and then the call is skipped.
  by_cases poll : event = s.pollEvent
  · refine .inr fun environment config => Service.reconcile_of_skipped _ _ _ _ (.inl ?_)
    rw [loadHook, if_pos poll] at loads
    cases loads
    exact poll
  · rcases loads_of_loadHook poll loads with ⟨-, trigger⟩ | genuine
    · refine .inr fun environment config => Service.reconcile_of_skipped _ _ _ _ (.inr ?_)
      exact congrArg Trigger.hasDatabase trigger
    · exact .inl genuine

/-- Whenever handling an event changes a file or gives the service manager a command, the event is
no poll, the base counts as configured, and what is put in place is genuine. Nothing but that is
written on the way either, and whatever else stands for inputs that were not loaded is never looked
at. -/
theorem changes_genuine (separate : s.Separate) :
    (s.Changes (.hook event flags inputs) w → event ≠ s.pollEvent ∧
      (Flags.baseConfigured ∈ flags ∨ ∃ persisted, s.flagFile.active w.disk = .ok persisted ∧
        Flags.baseConfigured ∈ persisted) ∧
      ∃ database environment operator files, s.Genuine inputs w
        (s.perform (.hook event flags inputs) w) database environment operator files) ∧
      ∀ loaded, s.loadHook event inputs w = .ok loaded →
        let r := s.reconciliation loaded
        r.program.InTurn (fun _ q => r.WritesRendered q) (fun _ _ => True) none ∧
          ((∃ database operator, Loads event inputs w loaded database operator) ∨
            ∀ environment config, r.program =
              s.service.reconcile environment config loaded.trigger) := by
  constructor
  · intro changes
    obtain ⟨loaded, database, operator, files, reconciles⟩ := reconciles_of_changes separate changes
    obtain ⟨persisted, active, base, -⟩ := reconciles.reaches.active
    refine ⟨reconciles.notPoll, ?_, database, loaded.environment, operator, files,
      reconciles.genuine separate⟩
    rcases base with kept | given
    · exact .inr ⟨persisted, active, kept⟩
    · exact .inl given
  · intro loaded loads
    exact ⟨(s.reconciliation loaded).program_writes, loads_or_unseen loads⟩

end Setup

/-- A world in which a reconciliation was interrupted after its flags had been set and before it
could write anything else. -/
def World.interrupted : World where
  disk :=
    let flags := "[\x7b\"service.configured\":true,\"service.reload-pending\":true," ++
      "\"service.restart-pending\":true\x7d]"
    (((∅ : Disk).put ⟨true, ["bin"]⟩ .directory).put ⟨true, ["bin", "systemctl"]⟩
      (.file 0o755 .empty)).put ⟨true, ["f"]⟩ (.file FlagFile.mode flags.toUTF8)
  tools := (∅ : SortedMap Tool).insert "/bin/systemctl" {}
  now := ⟨"2024-01-01T00:00:00Z", Timestamp.isValid_newYear⟩

namespace Setup

/-- A setup for the world that was interrupted. -/
def resuming : Setup where
  serviceName := "v"
  baseDirectory := ⟨"/"⟩
  unitDirectory := ⟨"/"⟩
  stateFile := ⟨"/f"⟩
  systemctl := some ⟨"/bin/systemctl"⟩

theorem resuming_separate : resuming.Separate where
  state_unit := by decide +kernel
  state_settings := by decide +kernel
  unit_settings := by decide +kernel
  metrics := nofun

/-- The inputs with which the interrupted reconciliation is resumed. -/
def resumingInputs : Inputs where
  database := some (.given ⟨"postgres://db/vault", []⟩)

/-- The event with which the interrupted reconciliation is resumed. -/
def resumption : Command :=
  .hook "config-changed" [Flags.baseConfigured] resumingInputs

/-- The interrupted reconciliation is brought to an end when it is resumed. -/
theorem resuming_ends : (resuming.run resumption World.interrupted).2.isOk = true ∧
    (resuming.run resumption World.interrupted).1.commands =
      [["/bin/systemctl", "daemon-reload"], ["/bin/systemctl", "restart", "v"]] := by
  decide +kernel

theorem resuming_changes : resuming.Changes resumption World.interrupted := by
  refine .inr (.inr (.inr ?_))
  rw [perform, resuming.commands_writeMetrics, resuming_ends.2]
  exact List.cons_ne_nil _ _

/-- What is resumed is genuine. -/
theorem resumption_genuine : resuming.Separate ∧ resuming.Changes resumption World.interrupted ∧
    ∃ database environment operator files, resuming.Genuine resumingInputs World.interrupted
      (resuming.perform resumption World.interrupted) database environment operator files :=
  ⟨resuming_separate, resuming_changes,
    ((changes_genuine resuming_separate).1 resuming_changes).2.2⟩

end Setup

end Upkeep
