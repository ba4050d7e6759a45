import Upkeep.Proofs.World.Genuine

/-! Printing the files of a service tells beforehand what an event will put in place. Both go through
the same inputs to the same renderer: where printing succeeds, an event that is handled well leaves
just the files that were printed, and where printing fails, no event changes a file. -/
namespace Upkeep

variable {s : Service} {files : ServiceFiles} {e : Equipment} {a : Artifact}

/-- A file of the service that is in place stays in place, whatever comes in turn. -/
theorem Turn.content?_kept (own : a = files.unit ∨ a = files.settings)
    (apart : files.unit.path.place ≠ files.settings.path.place)
    (apartState : a.path.place ≠ e.flags.path.place) (last : Option Exchange) (r : Request)
    (w : World) (turn : Turn s files last r) (inPlace : w.disk.content? a.path = some a.bytes) :
    (e.host r w).2.disk.content? a.path = some a.bytes :=
  (turn.change e w).content?_kept own apart apartState inPlace

namespace Artifact

variable {turn : Option Exchange → Request → Prop} {w : World}

theorem write_leaves : a.write.Leaves turn e.host w fun w =>
    w.disk.content? a.path = some a.bytes := by
  apply Action.Leaves.mapFault
  intro post last inTurn done after ran
  have asked := e.host_eq (.write a.path a.bytes a.mode) w
  have replacing : Disk.Replacing w.disk a.path a.bytes a.mode
      ((e.answer (.write a.path a.bytes a.mode) w).1.disk,
        (e.answer (.write a.path a.bytes a.mode) w).2) :=
    Equipment.write_replacing a.path a.bytes a.mode w
  obtain ⟨result, changed⟩ := Prod.mk.inj (asked.symm.trans ran)
  rw [result, changed] at replacing
  cases replacing with
  | done grown placed => exact placed.content?_self

/-- A file that is put in place is there, whether it had to be written or not. -/
theorem apply_leaves (keeps : ∀ last r (w : World), turn last r →
    w.disk.content? a.path = some a.bytes → (e.host r w).2.disk.content? a.path = some a.bytes) :
    a.apply.Leaves turn e.host w fun w => w.disk.content? a.path = some a.bytes := by
  apply Action.Leaves.later
  intro current v ran
  obtain ⟨found, rfl⟩ := Prod.mk.inj ((a.readCurrent_run e w).symm.trans ran)
  split
  · rename_i same
    apply Action.Leaves.of_kept keeps
    subst same
    exact Disk.content?_eq_some.mpr (current?_eq_some.mp found)
  · apply Action.Leaves.later
    intro logged v ran
    exact .first keeps write_leaves

end Artifact

/-- A service that has converged has its files in place. -/
theorem Service.converge_leaves {w : World} (own : a = files.unit ∨ a = files.settings)
    (apart : files.unit.path.place ≠ files.settings.path.place)
    (apartState : a.path.place ≠ e.flags.path.place) :
    (s.converge files).Leaves (Turn s files) e.host w fun w =>
      w.disk.content? a.path = some a.bytes := by
  have keeps := Turn.content?_kept (s := s) (e := e) own apart apartState
  have applied (w : World) : (Functor.discard (Action.mapFault ReconcileFault.artifact a.apply) :
      Reconciling Unit).Leaves (Turn s files) e.host w fun w =>
        w.disk.content? a.path = some a.bytes :=
    .discard (.mapFault (Artifact.apply_leaves keeps))
  unfold Service.converge
  apply Action.Leaves.later
  intro unitStale w ran
  apply Action.Leaves.later
  intro settingsStale w ran
  apply Action.Leaves.later
  intro marked w ran
  -- The unit is put in place first and kept from there on, the settings after it.
  rcases own with rfl | rfl
  · exact .first keeps (applied w)
  · apply Action.Leaves.later
    intro unitWritten w ran
    exact .first keeps (applied w)

namespace Reconciliation

variable {r : Reconciliation} {w : World}

/-- Counting and observing leave the files alone and change no result. -/
private theorem run_countOutcome (result : Except ReconcileFault Outcome) (e : Equipment)
    (w : World) :
    let counting : Program (Except ReconcileFault Outcome) := do
      Program.request .observeDuration
      Service.countOutcome result
      return result
    (counting.run e.host w).1 = result ∧ (counting.run e.host w).2.disk = w.disk := by
  cases result with
  | error fault => exact ⟨rfl, rfl⟩
  | ok outcome =>
    cases outcome with
    | applied => exact ⟨rfl, rfl⟩
    | unchanged => exact ⟨rfl, rfl⟩

/-- A call that is due and that ends well comes from a service that has converged. -/
private theorem converged_of_run {after : World} {outcome : Outcome} (due : r.IsDue)
    (rendered : r.rendering = .ok files) (ran : r.program.run e.host w = (.ok outcome, after)) :
    ∃ converged, converged.disk = after.disk ∧
      (r.service.converge files).run.run e.host (w.count .reconciliations) =
        (.ok outcome, converged) := by
  have once : r.service.reconcileOnce r.environment r.config r.trigger =
      r.service.converge files := by
    rw [due.once_eq, rendered]
  have whole : r.program.run e.host w = _ :=
    Program.run_bind (r.service.reconcileOnce r.environment r.config r.trigger).run _ e.host
      (w.count .reconciliations)
  rw [once] at whole
  cases converged : (r.service.converge files).run.run e.host (w.count .reconciliations) with
  | mk result middle =>
    rw [converged] at whole
    obtain ⟨sameResult, sameDisk⟩ := run_countOutcome result e middle
    have ends := ran.symm.trans whole
    have result_eq : Except.ok outcome = result := (congrArg Prod.fst ends).trans sameResult
    have disk_eq : after.disk = middle.disk :=
      (congrArg (fun ended => ended.2.disk) ends).trans sameDisk
    exact ⟨middle, disk_eq.symm, by rw [result_eq]⟩

/-- A call that is due and that ends well leaves both files in place. -/
theorem in_place_of_run {after : World} {outcome : Outcome} (due : r.IsDue)
    (rendered : r.rendering = .ok files) (own : a = files.unit ∨ a = files.settings)
    (apart : files.unit.path.place ≠ files.settings.path.place)
    (apartState : a.path.place ≠ e.flags.path.place)
    (ran : r.program.run e.host w = (.ok outcome, after)) :
    after.disk.content? a.path = some a.bytes := by
  obtain ⟨converged, same, ends⟩ := converged_of_run due rendered ran
  rw [← same]
  exact Service.converge_leaves own apart apartState _ none
    (Service.converge_steady none calm_none) outcome converged ends

end Reconciliation

namespace Setup

variable {s : Setup} {event : String} {flags : List String} {inputs : Inputs}
  {loaded : HookInputs} {w w' : World} {database : Database} {operator : Config}

/-- Two worlds that read alike: they have the same files and the same environment. Tools and times
may differ. -/
structure ReadsAlike (w w' : World) : Prop where
  disk : w'.disk = w.disk
  environment : w'.environment = w.environment

/-- What is printed depends on the files and the environment only. -/
theorem ReadsAlike.render_eq (alike : ReadsAlike w w') : s.render inputs w' = s.render inputs w := by
  simp only [render, Inputs.loadDatabase, Inputs.loadEnvironment, Inputs.loadConfig, alike.disk,
    alike.environment]

/-- Printing succeeds where all inputs can be loaded and rendered. -/
theorem render_eq_ok : s.render inputs w = .ok files ↔ ∃ database environment operator,
    inputs.loadDatabase w = .ok (some database) ∧ inputs.loadEnvironment w = .ok environment ∧
      inputs.loadConfig w = .ok operator ∧
      s.service.render environment (Config.desired operator database environment) = .ok files := by
  constructor
  · intro rendered
    obtain ⟨database, found, rendered⟩ := Result.bind_eq_ok.mp rendered
    cases database with
    | none => cases rendered
    | some database =>
      obtain ⟨environment, own, rendered⟩ := Result.bind_eq_ok.mp rendered
      obtain ⟨operator, config, rendered⟩ := Result.bind_eq_ok.mp rendered
      exact ⟨database, environment, operator, Result.mapError_eq_ok.mp found,
        Result.mapError_eq_ok.mp own, Result.mapError_eq_ok.mp config,
        Result.mapError_eq_ok.mp rendered⟩
  · rintro ⟨database, environment, operator, found, own, config, rendered⟩
    apply Result.bind_eq_ok.mpr
    refine ⟨some database, Result.mapError_eq_ok.mpr found, ?_⟩
    apply Result.bind_eq_ok.mpr
    refine ⟨environment, Result.mapError_eq_ok.mpr own, ?_⟩
    apply Result.bind_eq_ok.mpr
    exact ⟨operator, Result.mapError_eq_ok.mpr config, Result.mapError_eq_ok.mpr rendered⟩

/-- What is printed lies where the layout has it. -/
theorem lieAt_of_render (rendered : s.render inputs w = .ok files) : files.LieAt s.layout := by
  obtain ⟨database, environment, operator, -, -, -, rendered⟩ := render_eq_ok.mp rendered
  exact Service.lieAt_of_render rendered

/-- What is printed is what an event would put in place. -/
theorem Loads.render_iff (loads : Loads event inputs w loaded database operator) :
    s.render inputs w = .ok files ↔ (s.reconciliation loaded).rendering = .ok files := by
  have desired : s.service.render loaded.environment
      (Config.desired operator database loaded.environment) = (s.reconciliation loaded).rendering := by
    rw [← loads.desired]
    rfl
  rw [render_eq_ok, ← desired]
  constructor
  · rintro ⟨database', environment', operator', found, own, config, rendered⟩
    cases found.symm.trans loads.database_loads
    cases own.symm.trans loads.environment_loads
    cases config.symm.trans loads.config_loads
    exact rendered
  · intro rendered
    exact ⟨database, loaded.environment, operator, loads.database_loads, loads.environment_loads,
      loads.config_loads, rendered⟩

/-- A file that has been put in place stays there when metrics are written. -/
theorem content?_writeMetrics {p : Path} {content : ByteArray}
    (apart : ∀ path, s.metricsFile = some path → p.place ≠ path.place)
    (found : w.disk.content? p = some content) :
    (s.writeMetrics w).disk.content? p = some content := by
  obtain ⟨-, same | ⟨path, result, given, replacing⟩⟩ := s.writeMetrics_effect w
  · rwa [same]
  · exact replacing.content?_other (apart path given) found

/-- Where printing succeeds, an event that is no poll works with the inputs that were printed. -/
theorem rendering_of_render (notPoll : event ≠ s.pollEvent)
    (reads : s.loadHook event inputs w = .ok loaded) (rendered : s.render inputs w = .ok files) :
    (s.reconciliation loaded).IsDue ∧ (s.reconciliation loaded).rendering = .ok files := by
  rcases loads_of_loadHook notPoll reads with ⟨missing, -⟩ | ⟨database, operator, loads⟩
  · obtain ⟨database, environment, operator, found, -⟩ := render_eq_ok.mp rendered
    cases missing.symm.trans found
  · exact ⟨loads.isDue notPoll, loads.render_iff.mp rendered⟩

/-- An event that is no poll, that reaches the reconciler and that is handled well leaves the files
that are printed. -/
theorem in_place_of_hook (separate : s.Separate) (rendered : s.render inputs w = .ok files)
    (notPoll : event ≠ s.pollEvent) (reaches : s.Reaches event flags inputs w loaded)
    (succeeds : (s.hook event flags inputs w).2 = .ok ())
    (own : a = files.unit ∨ a = files.settings) :
    (s.perform (.hook event flags inputs) w).disk.content? a.path = some a.bytes := by
  have course := s.hook_course event flags inputs w
  have performed : s.perform (.hook event flags inputs) w =
      s.writeMetrics (s.hook event flags inputs w).1 := rfl
  rw [performed]
  generalize s.hook event flags inputs w = outcome at course succeeds
  cases course with
  | stopped alike unreached => exact absurd reaches (unreached succeeds loaded)
  | @reconciled after start result loaded e reaches equipped begins ends comes =>
    obtain ⟨due, rendering⟩ := rendering_of_render notPoll reaches.loads rendered
    have lie : files.LieAt s.layout := Service.lieAt_of_render rendering
    have apartState : a.path.place ≠ e.flags.path.place := by
      rw [equipped]
      exact separate.apartState lie own
    obtain ⟨outcome, ran⟩ := comes succeeds
    have inPlace := Reconciliation.in_place_of_run due rendering own (separate.apart lie) apartState
      (Prod.ext ran rfl)
    rw [← ends.disk] at inPlace
    exact content?_writeMetrics (separate.apartMetrics lie own) inPlace

/-- Where printing fails, no event changes a file or gives a command. -/
theorem alike_of_unprinted {fault : RunFault} (refused : s.render inputs w = .error fault) :
    w.Alike (s.hook event flags inputs w).1 := by
  rcases s.alike_or_reconciles event flags inputs w with
    alike | ⟨loaded, database, operator, files, reconciles⟩
  · exact alike
  · cases refused.symm.trans (reconciles.loads.render_iff.mpr reconciles.rendered)

/-- The text of each file is printed under its path, the unit before the settings. -/
theorem printed_eq (files : ServiceFiles) : printed files =
    "==> " ++ files.unit.path.text ++ " <==\n" ++ files.unit.content ++ "\n" ++
      "==> " ++ files.settings.path.text ++ " <==\n" ++ files.settings.content ++ "\n" := by
  simp only [printed, List.map_cons, List.map_nil, String.join_cons, String.join_nil,
    String.append_empty, String.append_assoc]

/-- Printing the files of a service is a dry run of the events. It starts no program and changes no
file but that of the metrics. Where it succeeds, it shows the texts of both files under their paths,
and every event that is no poll, that reaches the reconciler and that is handled well leaves just these
texts at just these paths; where it fails, no event changes either file. -/
theorem render_foretells (separate : s.Separate) :
    ((s.perform (.render inputs) w).calls = w.calls ∧
      ∀ l : Location, l.Proper → (∀ path, s.metricsFile = some path → l ≠ path.place) →
        (s.perform (.render inputs) w).disk.file? l = w.disk.file? l) ∧
    (∀ text, (s.run (.render inputs) w).2 = .ok text → ∃ files, s.render inputs w = .ok files ∧
      files.unit.path = s.layout.unitPath ∧ files.settings.path = s.layout.configPath ∧
      text = "==> " ++ s.layout.unitPath.text ++ " <==\n" ++ files.unit.content ++ "\n" ++
        "==> " ++ s.layout.configPath.text ++ " <==\n" ++ files.settings.content ++ "\n" ∧
      ∀ w', ReadsAlike w w' → ∀ event flags loaded, event ≠ s.pollEvent →
        s.Reaches event flags inputs w' loaded →
        (s.hook event flags inputs w').2 = .ok () →
          let after := s.perform (.hook event flags inputs) w'
          after.disk.content? s.layout.unitPath = some files.unit.content.toUTF8 ∧
            after.disk.content? s.layout.configPath = some files.settings.content.toUTF8) ∧
    ∀ fault, (s.run (.render inputs) w).2 = .error fault → ∀ w', ReadsAlike w w' → ∀ event flags,
      let after := s.perform (.hook event flags inputs) w'
      after.disk.file? s.layout.unitPath.place = w.disk.file? s.layout.unitPath.place ∧
        after.disk.file? s.layout.configPath.place = w.disk.file? s.layout.configPath.place := by
  refine ⟨⟨(s.writeMetrics_effect w).1, ?_⟩, ?_, ?_⟩
  · intro l proper apart
    exact file?_writeMetrics proper apart
  · intro text ran
    obtain ⟨files, rendered, rfl⟩ := Result.map_eq_ok.mp ran
    have lie : files.LieAt s.layout := lieAt_of_render rendered
    refine ⟨files, rendered, lie.unit, lie.settings, ?_, ?_⟩
    · rw [printed_eq, lie.unit, lie.settings]
    · intro w' alike event flags loaded notPoll reaches succeeds
      rw [← alike.render_eq] at rendered
      rw [← lie.unit, ← lie.settings]
      exact ⟨in_place_of_hook separate rendered notPoll reaches succeeds (.inl rfl),
        in_place_of_hook separate rendered notPoll reaches succeeds (.inr rfl)⟩
  · intro fault unprinted w' alike event flags
    have refused : s.render inputs w' = .error fault :=
      alike.render_eq.trans (Result.map_eq_error.mp unprinted)
    have untouched : (s.hook event flags inputs w').1.disk = w.disk :=
      (alike_of_unprinted refused).disk.trans alike.disk
    have same {l : Location} (proper : l.Proper)
        (apart : ∀ path, s.metricsFile = some path → l ≠ path.place) :
        (s.perform (.hook event flags inputs) w').disk.file? l = w.disk.file? l := by
      rw [← untouched]
      exact file?_writeMetrics proper apart
    exact ⟨same (Disk.place_proper _) fun path given => (separate.metrics path given).1.symm,
      same (Disk.place_proper _) fun path given => (separate.metrics path given).2.1.symm⟩

/-- An event has been handled well when its command has ended well. -/
theorem handled_of_run (ends : (s.run (.hook event flags inputs) w).2.isOk = true) :
    (s.hook event flags inputs w).2 = .ok () := by
  change ((s.hook event flags inputs w).2.map fun () => "").isOk = true at ends
  cases result : (s.hook event flags inputs w).2 with
  | error fault =>
    rw [result] at ends
    cases ends
  | ok done => rfl

/-- What is printed for the interrupted reconciliation is in place when it has been resumed, and
where nothing can be printed nothing is changed. -/
theorem resumption_foretold : resuming.Separate ∧
    (∃ unit settings : String,
      (resuming.run (.render resumingInputs) World.interrupted).2 = .ok (
        "==> " ++ resuming.layout.unitPath.text ++ " <==\n" ++ unit ++ "\n" ++
          "==> " ++ resuming.layout.configPath.text ++ " <==\n" ++ settings ++ "\n") ∧
      (resuming.perform resumption World.interrupted).disk.content? resuming.layout.unitPath =
        some unit.toUTF8 ∧
      (resuming.perform resumption World.interrupted).disk.content? resuming.layout.configPath =
        some settings.toUTF8) ∧
    (resuming.run (.render {}) World.interrupted).2 = .error .databaseMissing ∧
      (resuming.perform (.hook "config-changed" [] {}) World.interrupted).disk.file?
        resuming.layout.unitPath.place =
          World.interrupted.disk.file? resuming.layout.unitPath.place := by
  have succeeds := handled_of_run resuming_ends.1
  refine ⟨resuming_separate, ?_, rfl, ?_⟩
  · obtain ⟨loaded, database, operator, files, reconciles⟩ :=
      reconciles_of_changes resuming_separate resuming_changes
    have rendered := reconciles.loads.render_iff.mpr reconciles.rendered
    obtain ⟨text, ran⟩ : ∃ text,
        (resuming.run (.render resumingInputs) World.interrupted).2 = .ok text :=
      ⟨_, congrArg (Except.map printed) rendered⟩
    obtain ⟨shown, -, -, -, rfl, foretold⟩ := (render_foretells resuming_separate).2.1 text ran
    exact ⟨shown.unit.content, shown.settings.content, ran,
      foretold World.interrupted ⟨rfl, rfl⟩ "config-changed" [Flags.baseConfigured] loaded
        reconciles.notPoll reconciles.reaches succeeds⟩
  · exact ((render_foretells resuming_separate).2.2 .databaseMissing rfl World.interrupted
      ⟨rfl, rfl⟩ "config-changed" []).1

end Setup

end Upkeep
