import Upkeep.Proofs.Result
import Upkeep.Proofs.World.Effects
import Upkeep.Run

/-! Handling an event in the world: the event reaches the reconciler if the base is configured and a
database is known, and whatever happens before and after that leaves all files alone. What is
reconciled is what was loaded; the placeholders that stand for inputs that were not read are never
looked at. -/
namespace Upkeep

namespace Setup

variable {s : Setup} {event : String} {flags persisted : List String} {inputs : Inputs}
  {loaded : HookInputs} {w : World} {name : String}

/-- The call that an event asks for. -/
def reconciliation (s : Setup) (loaded : HookInputs) : Reconciliation :=
  ⟨s.service, loaded.environment, loaded.config, loaded.trigger⟩

/-- Which flags are active. -/
theorem contains_activeFlags {hasDatabase : Bool} :
    (activeFlags persisted flags hasDatabase).contains name = true ↔
      name ∈ persisted ∨ name ∈ flags ∨ hasDatabase = true ∧ name = Flags.databaseAvailable := by
  have names (list : List String) : (list.map fun name => (name, ())).map (·.1) = list := by
    simp [List.map_map, Function.comp_def]
  have given : ((ActiveFlags.ofNames persisted).addAll flags).contains name = true ↔
      name ∈ persisted ∨ name ∈ flags := by
    simp only [ActiveFlags.ofNames, ActiveFlags.addAll, SortedMap.ofList,
      SortedMap.contains_insertAll, names]
    simp [SortedMap.contains]
  unfold activeFlags
  cases hasDatabase with
  | false => simpa using given
  | true =>
    have added : (((ActiveFlags.ofNames persisted).addAll flags).addAll
        [Flags.databaseAvailable]).contains name = true ↔
        ((ActiveFlags.ofNames persisted).addAll flags).contains name = true ∨
          name ∈ [Flags.databaseAvailable] := by
      rw [ActiveFlags.addAll, SortedMap.contains_insertAll, names]
    simp only [↓reduceIte, added, given, List.mem_singleton, true_and, or_assoc]

/-- An event reaches the reconciler: what it works with could be loaded and the flags be read, and
among the active ones are those for the base and for the database. -/
structure Reaches (s : Setup) (event : String) (flags : List String) (inputs : Inputs) (w : World)
    (loaded : HookInputs) : Prop where
  loads : s.loadHook event inputs w = .ok loaded
  active : ∃ persisted, s.flagFile.active w.disk = .ok persisted ∧
    (Flags.baseConfigured ∈ persisted ∨ Flags.baseConfigured ∈ flags) ∧
    (Flags.databaseAvailable ∈ persisted ∨ Flags.databaseAvailable ∈ flags ∨
      loaded.trigger.hasDatabase = true)

end Setup

/-- Which handlers are ready. -/
theorem Handler.ready_table (active : ActiveFlags) : Handler.table.ready active =
    if active.contains Flags.baseConfigured && active.contains Flags.databaseAvailable then
      [.configure]
    else [] := by
  have rules : Handler.table.rules =
      [⟨.configure, [Flags.baseConfigured, Flags.databaseAvailable], []⟩] := rfl
  have holds : (⟨.configure, [Flags.baseConfigured, Flags.databaseAvailable], []⟩ :
      Rule Handler).holds active =
        (active.contains Flags.baseConfigured && active.contains Flags.databaseAvailable) := by
    simp [Rule.holds]
  rw [DispatchTable.ready, rules, List.filter_cons, holds]
  split
  · rfl
  · rfl

namespace Setup

variable {s : Setup} {event : String} {flags persisted : List String} {inputs : Inputs}
  {loaded : HookInputs} {w : World} {name : String}

/-- The handler is ready where the event reaches the reconciler. -/
theorem ready_iff {hasDatabase : Bool} :
    Handler.table.ready (activeFlags persisted flags hasDatabase) = [.configure] ↔
      (Flags.baseConfigured ∈ persisted ∨ Flags.baseConfigured ∈ flags) ∧
        (Flags.databaseAvailable ∈ persisted ∨ Flags.databaseAvailable ∈ flags ∨
          hasDatabase = true) := by
  have other : Flags.baseConfigured ≠ Flags.databaseAvailable := by decide
  rw [Handler.ready_table, ite_eq_left_iff, Bool.and_eq_true, contains_activeFlags,
    contains_activeFlags]
  simp only [other, and_false, or_false, and_true, reduceCtorEq, imp_false, Classical.not_not]

/-- How handling an event may go, with the world that it leaves and its result. -/
inductive HookCourse (s : Setup) (event : String) (flags : List String) (inputs : Inputs) (w : World) :
    World × Except RunFault Unit → Prop where
  | stopped {w' : World} {result : Except RunFault Unit} (alike : w.Alike w')
      (unreached : result = .ok () → ∀ loaded, ¬ s.Reaches event flags inputs w loaded) :
      HookCourse s event flags inputs w (w', result)
  | reconciled {w' start : World} {result : Except RunFault Unit} {loaded : HookInputs}
      {e : Equipment} (reaches : s.Reaches event flags inputs w loaded)
      (equipped : e.flags = s.flagFile) (begins : w.Alike start)
      (ends : ((s.reconciliation loaded).program.run e.host start).2.Alike w')
      (succeeds : result = .ok () →
        ∃ outcome, ((s.reconciliation loaded).program.run e.host start).1 = .ok outcome) :
      HookCourse s event flags inputs w (w', result)

private theorem course_of_runConfigure (reaches : s.Reaches event flags inputs w loaded) :
    HookCourse s event flags inputs w (Handler.runConfigure s loaded w) := by
  unfold Handler.runConfigure
  split
  · exact .stopped (.refl w) nofun
  · rename_i manager found
    have begins := Reporter.discover_alike w
    generalize Reporter.discover w = discovered at begins
    obtain ⟨start, reporter⟩ := discovered
    obtain ⟨e, made⟩ : ∃ e : Equipment,
        e = ⟨s.flagFile, manager, reporter, some ⟨s.serviceName, loaded.trigger.event⟩⟩ := ⟨_, rfl⟩
    have equipped : e.flags = s.flagFile := by rw [made]
    simp only [← made]
    cases ran : ((s.service.reconcile loaded.environment loaded.config loaded.trigger).run
        e.host).run start with
    | mk result w' =>
      have program : (s.reconciliation loaded).program.run e.host start = (result, w') := ran
      cases result with
      | error fault =>
        refine .reconciled reaches equipped begins ?_ nofun
        rw [program]
        exact .refl w'
      | ok outcome =>
        refine .reconciled reaches equipped begins ?_ fun _ => ⟨outcome, ?_⟩
        · rw [program]
          exact w'.alike_logEvent _ _
        · rw [program]

theorem runAll_configure (s : Setup) (loaded : HookInputs) (w : World) :
    Handler.runAll s loaded [.configure] w = Handler.runConfigure s loaded w := by
  simp only [Handler.runAll, Handler.run]
  cases Handler.runConfigure s loaded w with
  | mk w' result =>
    cases result with
    | error fault => rfl
    | ok done => rfl

/-- An event that reaches the reconciler is handled there, whatever flags have brought it there. -/
theorem hook_of_reaches (reaches : s.Reaches event flags inputs w loaded) :
    s.hook event flags inputs w = Handler.runConfigure s loaded w := by
  obtain ⟨loads, persisted, active, base, database⟩ := reaches
  unfold hook
  rw [loads]
  simp only [active]
  rw [ready_iff.mpr ⟨base, database⟩]
  exact runAll_configure s loaded w

/-- What an event comes to that does not reach the reconciler. -/
def idle (s : Setup) (event : String) (inputs : Inputs) (w : World) : Except RunFault Unit :=
  match s.loadHook event inputs w with
  | .error fault => .error fault
  | .ok _ => (s.flagFile.active w.disk).mapError .persistedFlags |>.map fun _ => ()

/-- An event that does not reach the reconciler leaves nothing but a message. -/
theorem hook_of_unreached (unreached : ∀ loaded, ¬ s.Reaches event flags inputs w loaded) :
    ∃ log, s.hook event flags inputs w = ({ w with log }, s.idle event inputs w) := by
  unfold hook idle
  cases loads : s.loadHook event inputs w with
  | error fault => exact ⟨w.log, rfl⟩
  | ok loaded =>
    cases active : s.flagFile.active w.disk with
    | error fault => exact ⟨w.log, rfl⟩
    | ok persisted =>
      have none : Handler.table.ready
          (activeFlags persisted flags loaded.trigger.hasDatabase) = [] := by
        by_cases ready : Handler.table.ready
            (activeFlags persisted flags loaded.trigger.hasDatabase) = [.configure]
        · obtain ⟨base, database⟩ := ready_iff.mp ready
          exact absurd ⟨loads, persisted, active, base, database⟩ (unreached loaded)
        · rw [Handler.ready_table] at ready ⊢
          split at ready
          · exact absurd rfl ready
          · rename_i other
            rw [if_neg other]
      simp only [none]
      exact ⟨_, rfl⟩

/-- However handling an event goes, it goes in one of these ways. -/
theorem hook_course (s : Setup) (event : String) (flags : List String) (inputs : Inputs)
    (w : World) : HookCourse s event flags inputs w (s.hook event flags inputs w) := by
  by_cases reached : ∃ loaded, s.Reaches event flags inputs w loaded
  · obtain ⟨loaded, reaches⟩ := reached
    rw [hook_of_reaches reaches]
    exact course_of_runConfigure reaches
  · obtain ⟨log, same⟩ := hook_of_unreached (not_exists.mp reached)
    rw [same]
    exact .stopped ⟨rfl, rfl⟩ fun _ loaded reaches => reached ⟨loaded, reaches⟩

/-- What an event is handled with when it is neither a poll nor without a database: the environment
as it was loaded, and what is desired by the operator's configuration and the database. -/
structure Loads (event : String) (inputs : Inputs) (w : World) (loaded : HookInputs)
    (database : Database) (operator : Config) : Prop where
  database_loads : inputs.loadDatabase w = .ok (some database)
  environment_loads : inputs.loadEnvironment w = .ok loaded.environment
  config_loads : inputs.loadConfig w = .ok operator
  desired : loaded.config = Config.desired operator database loaded.environment
  trigger : loaded.trigger = ⟨event, true⟩

/-- What is loaded for an event that is no poll. -/
theorem loads_of_loadHook (notPoll : event ≠ s.pollEvent)
    (loads : s.loadHook event inputs w = .ok loaded) :
    inputs.loadDatabase w = .ok none ∧ loaded.trigger = ⟨event, false⟩ ∨
      ∃ database operator, Loads event inputs w loaded database operator := by
  rw [loadHook, if_neg notPoll] at loads
  obtain ⟨database, found, loads⟩ := Result.bind_eq_ok.mp loads
  obtain ⟨own, environment, loads⟩ := Result.bind_eq_ok.mp loads
  obtain ⟨operator, config, loads⟩ := Result.bind_eq_ok.mp loads
  have found := Result.mapError_eq_ok.mp found
  have environment := Result.mapError_eq_ok.mp environment
  have config := Result.mapError_eq_ok.mp config
  cases database with
  | none =>
    cases loads
    exact .inl ⟨found, rfl⟩
  | some database =>
    cases loads
    exact .inr ⟨database, operator, found, environment, config, rfl, rfl⟩

/-- An event that is not skipped is no poll, and all its inputs have been loaded. -/
theorem loads_of_due (loads : s.loadHook event inputs w = .ok loaded)
    (due : (s.reconciliation loaded).IsDue) : event ≠ s.pollEvent ∧
      ∃ database operator, Loads event inputs w loaded database operator := by
  by_cases poll : event = s.pollEvent
  · rw [loadHook, if_pos poll] at loads
    cases loads
    exact absurd poll due.notPoll
  · rcases loads_of_loadHook poll loads with ⟨-, trigger⟩ | loads
    · have hasDatabase : loaded.trigger.hasDatabase = true := due.hasDatabase
      rw [trigger] at hasDatabase
      cases hasDatabase
    · exact ⟨poll, loads⟩

/-- Once all inputs of an event that is no poll have been loaded, it is not skipped. -/
theorem Loads.isDue {database : Database} {operator : Config}
    (loads : Loads event inputs w loaded database operator) (notPoll : event ≠ s.pollEvent) :
    (s.reconciliation loaded).IsDue := by
  constructor
  · change loaded.trigger.event ≠ s.pollEvent
    rw [loads.trigger]
    exact notPoll
  · change loaded.trigger.hasDatabase = true
    rw [loads.trigger]

end Setup

namespace Setup

/-- A command, and the metrics that are written after it. -/
def perform (s : Setup) (command : Command) (w : World) : World :=
  s.writeMetrics (s.run command w).1

/-- Writing metrics starts no program, and changes no file but that of the metrics. -/
theorem writeMetrics_effect (s : Setup) (w : World) :
    (s.writeMetrics w).calls = w.calls ∧ ((s.writeMetrics w).disk = w.disk ∨
      ∃ path result, s.metricsFile = some path ∧
        Disk.Replacing w.disk path w.metrics.text.toUTF8 metricsMode
          ((s.writeMetrics w).disk, result)) := by
  unfold writeMetrics
  cases given : s.metricsFile with
  | none => exact ⟨rfl, .inl rfl⟩
  | some path =>
    have replacing := Equipment.write_replacing path w.metrics.text.toUTF8 metricsMode w
    have calls : (Equipment.write path w.metrics.text.toUTF8 metricsMode w).1.calls = w.calls := rfl
    simp only
    generalize Equipment.write path w.metrics.text.toUTF8 metricsMode w = outcome at replacing calls
    obtain ⟨w', fault | done⟩ := outcome
    · exact ⟨calls, .inr ⟨path, _, rfl, replacing⟩⟩
    · exact ⟨calls, .inr ⟨path, _, rfl, replacing⟩⟩

theorem commands_writeMetrics (s : Setup) (w : World) : (s.writeMetrics w).commands = w.commands :=
  congrArg (List.filter World.isCommand) (s.writeMetrics_effect w).1

end Setup

/-- A call that is skipped never looks at the environment and the configuration. -/
theorem Service.reconcile_of_skipped {s : Service} {trigger : Trigger}
    (environment other : Environment) (config another : Config)
    (skipped : trigger.event = s.pollEvent ∨ trigger.hasDatabase = false) :
    s.reconcile environment config trigger = s.reconcile other another trigger := by
  have once : s.reconcileOnce environment config trigger = s.reconcileOnce other another trigger := by
    unfold Service.reconcileOnce
    split
    · rfl
    · rename_i notPoll
      rcases skipped with poll | noDatabase
      · exact absurd poll notPoll
      · rw [noDatabase]
        rfl
  unfold Service.reconcile
  rw [once]

/-- All URIs of a database that could be loaded are of a database's scheme. -/
theorem Inputs.hasDatabaseScheme_of_loadDatabase {inputs : Inputs} {w : World}
    {database : Database} (loads : inputs.loadDatabase w = .ok (some database)) :
    ∀ uri ∈ database.uris, hasDatabaseScheme uri = true := by
  have of_checked {found : Database} (checked : found.checked = .ok database) :
      ∀ uri ∈ database.uris, hasDatabaseScheme uri = true := by
    have checked : found.check = .ok database := Result.mapError_eq_ok.mp checked
    unfold Database.check at checked
    cases foreign : found.firstForeign? with
    | some uri =>
      rw [foreign] at checked
      cases checked
    | none =>
      rw [foreign] at checked
      cases checked
      simpa [Database.firstForeign?] using foreign
  unfold Inputs.loadDatabase at loads
  split at loads
  · cases loads
  · rename_i path given
    obtain ⟨_, read, same⟩ := Result.map_eq_ok.mp loads
    cases same
    obtain ⟨text, -, read⟩ := Result.bind_eq_ok.mp read
    obtain ⟨found, -, checked⟩ := Result.bind_eq_ok.mp read
    exact of_checked checked
  · obtain ⟨_, checked, same⟩ := Result.map_eq_ok.mp loads
    cases same
    exact of_checked checked

end Upkeep
