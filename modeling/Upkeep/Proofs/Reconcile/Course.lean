import Upkeep.Proofs.Path
import Upkeep.Proofs.Reconcile.Parts
import Upkeep.Proofs.Reconcile.Stages

/-! The course of a reconciliation: which requests it makes in which views, and with what it may
end. -/
namespace Upkeep

/-- The two files of a service have different paths, whatever its name is and wherever it lies. -/
theorem Layout.unitPath_ne_configPath (serviceName : String) (base units : Path) :
    (ofService serviceName base units).unitPath ≠ (ofService serviceName base units).configPath := by
  intro same
  have last := congrArg (fun p : Path => p.text.toList.getLast?) same
  simp only [ofService] at last
  rw [Path.getLast?_joinText _ (by simp), Path.getLast?_joinText _ (by decide)] at last
  simp [settingsName] at last

/-- The requests of a reconciliation that starts from a view: quiet ones at any time, and the others
each in one view. -/
inductive Asks (s : Service) (files : ServiceFiles) (v : View) : Request → View → Prop where
  | quiet {r : Request} {w : View} (quiet : r.isQuiet = true) : Asks s files v r w
  | markReload (stale : v.unitStale files = true) :
      Asks s files v (.setFlag Flags.reloadPending true) v
  | markRestart (stale : v.isStale files = true) :
      Asks s files v (.setFlag Flags.restartPending true) (v.reloadMarked files)
  | writeUnit (stale : v.unitStale files = true) :
      Asks s files v (.write s.layout.unitPath files.unit.bytes files.unit.mode) (v.marked files)
  | writeSettings (stale : v.settingsStale files = true) :
      Asks s files v (.write s.layout.configPath files.settings.bytes files.settings.mode)
        (v.unitWritten files)
  | reload (due : v.mustRestart files = true) (stale : v.mustReload files = true) :
      Asks s files v .reloadUnits (v.written files)
  | restart (due : v.mustRestart files = true) :
      Asks s files v (.restart s.layout.serviceName) (v.reloaded files)
  | configure (due : v.mustRestart files = true) :
      Asks s files v (.setFlag Flags.configured true) (v.restarted files)
  | clearReload (due : v.mustRestart files = true) :
      Asks s files v (.setFlag Flags.reloadPending false) (v.configured files)
  | clearRestart (due : v.mustRestart files = true) :
      Asks s files v (.setFlag Flags.restartPending false) (v.reloadCleared files)

theorem Asks.of_restart {s : Service} {files : ServiceFiles} {v w : View} {unit : String}
    (asks : Asks s files v (.restart unit) w) :
    v.mustRestart files = true ∧ unit = s.layout.serviceName ∧ w = v.reloaded files := by
  cases asks with
  | quiet quiet => cases quiet
  | restart due => exact ⟨due, rfl, rfl⟩

/-- The ends of a reconciliation that starts from a view. -/
def Ends (s : Service) (files : ServiceFiles) (v : View) :
    Except ReconcileFault Outcome → Scene → Prop
  | .ok .unchanged, c =>
    v.mustRestart files = false ∧
      c = ⟨v, (v.preparation files).report .active WorkloadState.readyMessage⟩
  | .ok .applied, c => v.mustRestart files = true ∧ c = ⟨v.settled files, v.completion files s⟩
  | .error (.render _), _ => False
  | .error (.artifact _), c =>
    c.footprint.failed = true ∧ c.footprint.commands = [] ∧ c.footprint.reports = [] ∧
      (c.footprint.reads.length ≤ 2 →
        c.view = v ∧ c.footprint.writes = [] ∧ c.footprint.marks = [])
  | .error (.flag _), c =>
    c.footprint.failed = true ∧ c.footprint.reports = [] ∧
      (c.footprint.commands = [] ∨
        c.footprint.commands = v.restartCommands files s (.ok ()) ∧
          c.view.files = files.served ∧ c.view.flags.isSet Flags.restartPending = true)
  | .error (.service fault), c =>
    v.mustRestart files = true ∧ c.footprint.failed = true ∧
      (c.footprint.commands = [(.reloadUnits, .error fault)] ∨
        c.footprint.commands = v.restartCommands files s (.error fault)) ∧
      c.footprint.reports = [(.blocked, WorkloadState.restartFailedMessage)] ∧
      c.view.files = files.served ∧ c.view.flags = (v.marked files).flags
  | .error (.status _), c =>
    v.mustRestart files = false ∧
        c = ⟨v, ((v.preparation files).report .active WorkloadState.readyMessage).refused⟩ ∨
      v.mustRestart files = true ∧ c = ⟨v.settled files, (v.completion files s).refused⟩

variable {l : Layout} {s : Service} {allowed : Request → View → Prop} {v w : View} {f : Footprint}
  {files : ServiceFiles}

/-- A reconciliation that ends in a fault was refused something. -/
theorem Ends.failed {fault : ReconcileFault} {c : Scene} (ends : Ends s files v (.error fault) c) :
    c.footprint.failed = true := by
  cases fault with
  | render fault => exact ends.elim
  | artifact fault => exact ends.1
  | flag fault => exact ends.1
  | service fault => exact ends.2.1
  | status fault => rcases ends with ⟨-, rfl⟩ | ⟨-, rfl⟩ <;> rfl

theorem markPending_ensures {ok : Unit → Scene → Prop} {bad : ReconcileFault → Scene → Prop}
    (done : ok () ⟨v.marked files, { f with marks := f.marks ++ v.pendingMarks files }⟩)
    (refused : ∀ fault w marks, bad (.flag fault) ⟨w, { f with marks, failed := true }⟩) :
    Action.Ensures l (Asks s files v)
      (Service.markPending (v.unitStale files) (v.settingsStale files)) ⟨v, f⟩ ok bad := by
  unfold Service.markPending
  cases unit : v.unitStale files with
  | true =>
    have stale : v.isStale files = true := by simp [View.isStale, unit]
    refine .bind (Service.setFlag_ensures (.markReload unit) ?_ fun fault => refused fault _ _)
    have first : v.reloadMarked files = { v with flags := v.flags.insert Flags.reloadPending true } := by
      simp [View.reloadMarked, unit]
    refine Service.setFlag_ensures (first ▸ .markRestart stale) ?_ fun fault => refused fault _ _
    simpa [View.marked, View.pendingMarks, Footprint.mark, unit, stale, first] using done
  | false =>
    have first : v.reloadMarked files = v := by simp [View.reloadMarked, unit]
    cases settings : v.settingsStale files with
    | true =>
      have stale : v.isStale files = true := by simp [View.isStale, settings]
      refine Service.setFlag_ensures ?_ ?_ fun fault => refused fault _ _
      · have asks := Asks.markRestart (s := s) stale
        rwa [first] at asks
      · simpa [View.marked, View.pendingMarks, Footprint.mark, unit, stale, first] using done
    | false =>
      have fresh : v.isStale files = false := by simp [View.isStale, unit, settings]
      refine .pure ?_
      simpa [View.marked, View.pendingMarks, unit, fresh] using done

namespace Service

/-- The footprint of a restart that fails tells which command did. -/
theorem restart_ensures {ok : Unit → Scene → Prop} {bad : ServiceFault → Scene → Prop}
    (due : v.mustRestart files = true) (fresh : f.commands = [])
    (done : ok () ⟨v.restarted files, { f with commands := v.restartCommands files s (.ok ()) }⟩)
    (refused : ∀ fault w commands,
      commands = [(.reloadUnits, .error fault)] ∨
        commands = v.restartCommands files s (.error fault) →
      w.files = files.served → w.flags = (v.marked files).flags →
      bad fault ⟨w, { f with commands, failed := true }⟩) :
    Action.Ensures l (Asks s files v) (s.restart (v.mustReload files)) ⟨v.written files, f⟩
      ok bad := by
  unfold Service.restart
  cases stale : v.mustReload files with
  | true =>
    have reloaded := View.reloaded_of_due stale
    refine .bind (.reloadUnits (.reload due stale) (.restart (reloaded ▸ .restart due) ?_ ?_) ?_)
    · simpa [View.restarted, View.restartCommands, Footprint.command, fresh, reloaded, stale]
        using done
    · intro fault
      refine refused fault _ _ (.inr ?_) rfl rfl
      simp [View.restartCommands, Footprint.command, fresh, stale]
    · intro fault
      refine refused fault _ _ (.inl ?_) rfl rfl
      simp [Footprint.command, fresh]
  | false =>
    have reloaded := View.reloaded_of_not_due stale
    refine .restart (reloaded ▸ .restart due) ?_ ?_
    · simpa [View.restarted, View.restartCommands, Footprint.command, fresh, reloaded, stale]
        using done
    · intro fault
      refine refused fault _ _ (.inr ?_) rfl rfl
      simp [View.restartCommands, Footprint.command, fresh, stale]

private theorem completion_eq :
    ((((({ v.preparation files with
      commands := v.restartCommands files s (.ok ()) } : Footprint).mark Flags.configured true).mark
        Flags.reloadPending false).mark Flags.restartPending false).report .active
          WorkloadState.readyMessage) = v.completion files s := by
  simp [View.completion, View.preparation, Footprint.mark, Footprint.report]

/-- After the restart the flags are cleared in order, the one for the restart last. -/
private theorem settle_ensures (due : v.mustRestart files = true) :
    Action.Ensures l (Asks s files v)
      (do
        setFlag Flags.configured true
        setFlag Flags.reloadPending false
        setFlag Flags.restartPending false
        reportReady
        Action.log .reconciled
        return .applied)
      ⟨v.restarted files, { v.preparation files with commands := v.restartCommands files s (.ok ()) }⟩
      (fun outcome => Ends s files v (.ok outcome)) (fun fault => Ends s files v (.error fault)) := by
  have quiet : AllowsQuiet (Asks s files v) := fun _ _ quiet => .quiet quiet
  obtain ⟨restarted, configured, cleared⟩ := View.pending_until_cleared due
  refine .bind (setFlag_ensures (.configure due) ?_ ?_)
  · refine .bind (setFlag_ensures (.clearReload due) ?_ ?_)
    · refine .bind (setFlag_ensures (.clearRestart due) ?_ ?_)
      · refine .bind (reportReady_ensures quiet ?_ fun fault => .inr ⟨due, ?_⟩)
        · exact .bind (.log quiet (.pure ⟨due, congrArg (Scene.mk _) completion_eq⟩))
        · exact congrArg (Scene.mk _) (congrArg Footprint.refused completion_eq)
      · exact fun fault => ⟨rfl, rfl, .inr ⟨rfl, rfl, cleared⟩⟩
    · exact fun fault => ⟨rfl, rfl, .inr ⟨rfl, rfl, configured⟩⟩
  · exact fun fault => ⟨rfl, rfl, .inr ⟨rfl, rfl, restarted⟩⟩

/-- Once both files are in place, a restart that is due is done. -/
private theorem restartPending_ensures (due : v.mustRestart files = true) :
    Action.Ensures l (Asks s files v) s.restartPending ⟨v.written files, v.preparation files⟩
      (fun outcome => Ends s files v (.ok outcome)) (fun fault => Ends s files v (.error fault)) := by
  have quiet : AllowsQuiet (Asks s files v) := fun _ _ quiet => .quiet quiet
  refine .bind (getFlag_ensures quiet ?_ fun fault => ⟨rfl, rfl, .inl rfl⟩)
  have reload : (v.written files).flags.isSet Flags.reloadPending = v.mustReload files :=
    View.isSet_reloadPending_marked
  rw [reload]
  refine .bind (.outcome (restart_ensures due rfl (settle_ensures due) ?_))
  intro fault w commands failed served flags
  refine .bind (restartFailed_ensures quiet fun g same => ?_)
  refine .throw ⟨due, ?_⟩
  rcases same with rfl | rfl <;> exact ⟨rfl, failed, rfl, served, flags⟩

/-- Both files are put in place, and the service is restarted if that is due. -/
theorem converge_ensures (own : files.LieAt s.layout)
    (distinct : s.layout.unitPath ≠ s.layout.configPath) :
    Action.Ensures s.layout (Asks s files v) (s.converge files) ⟨v, {}⟩
      (fun outcome => Ends s files v (.ok outcome)) (fun fault => Ends s files v (.error fault)) := by
  have quiet : AllowsQuiet (Asks s files v) := fun _ _ quiet => .quiet quiet
  refine .bind (.mapFault (Artifact.isStale_ensures quiet (.inl own.unit) ?_ fun fault =>
    ⟨rfl, rfl, rfl, fun _ => ⟨rfl, rfl, rfl⟩⟩))
  rw [View.unitStale_eq own rfl]
  refine .bind (.mapFault (Artifact.isStale_ensures quiet (.inr own.settings) ?_ fun fault =>
    ⟨rfl, rfl, rfl, fun _ => ⟨rfl, rfl, rfl⟩⟩))
  rw [View.settingsStale_eq own distinct rfl]
  refine .bind (markPending_ensures ?_ fun fault w marks => ⟨rfl, rfl, .inl rfl⟩)
  refine .bind (.discard (.mapFault (Artifact.apply_ensures quiet (.inl own.unit) ?_ ?_ ?_)))
  · intro stale
    have differs := bne_iff_ne.mpr stale
    rw [View.unitStale_eq own rfl] at differs
    exact own.unit ▸ .writeUnit differs
  · intro changed
    rw [View.unitStale_eq own rfl, View.store_unit own]
    refine .bind (.discard (.mapFault (Artifact.apply_ensures quiet (.inr own.settings) ?_ ?_ ?_)))
    · intro stale
      have differs := bne_iff_ne.mpr stale
      rw [View.settingsStale_eq own distinct rfl] at differs
      exact own.settings ▸ .writeSettings differs
    · intro changed
      rw [View.settingsStale_eq own distinct rfl, View.store_settings own distinct]
      refine .bind (getFlag_ensures quiet ?_ fun fault => ⟨rfl, rfl, .inl rfl⟩)
      have restart : (v.written files).flags.isSet Flags.restartPending = v.mustRestart files :=
        View.isSet_restartPending_marked
      rw [restart]
      cases due : v.mustRestart files with
      | true => exact .bind (.log quiet (restartPending_ensures due))
      | false =>
        rw [View.written_of_not_due due]
        refine .bind (.log quiet (.bind (reportReady_ensures quiet ?_ fun fault => ?_)))
        · exact .pure ⟨due, rfl⟩
        · exact .inl ⟨due, rfl⟩
    · intro fault writes
      exact ⟨rfl, rfl, rfl, fun few => absurd few (by simp [Footprint.read])⟩
  · intro fault writes
    exact ⟨rfl, rfl, rfl, fun few => absurd few (by simp [Footprint.read])⟩

/-- What the files are that are rendered. -/
theorem eq_of_render {environment : Environment} {config : Config}
    (rendered : s.render environment config = .ok files) :
    ∃ unit settings, (s.unit environment).render = .ok unit ∧ config.settings = .ok settings ∧
      files = ⟨⟨s.layout.unitPath, unit, unitMode⟩, ⟨s.layout.configPath, settings, settingsMode⟩⟩ := by
  unfold Service.render at rendered
  cases unit : (s.unit environment).render with
  | error fault => simp [unit, bind, Except.bind] at rendered
  | ok text =>
    cases settings : config.settings with
    | error fault => simp [unit, settings, bind, Except.bind] at rendered
    | ok yaml =>
      simp only [unit, settings, bind, Except.bind, pure, Except.pure, Except.ok.injEq] at rendered
      exact ⟨text, yaml, rfl, rfl, rendered.symm⟩

/-- Rendering puts the files where the service has them. -/
theorem lieAt_of_render {environment : Environment} {config : Config}
    (rendered : s.render environment config = .ok files) : files.LieAt s.layout := by
  obtain ⟨unit, settings, -, -, rfl⟩ := eq_of_render rendered
  exact ⟨rfl, rfl⟩

/-- A disk keeps the modes of the files as they are. -/
theorem keptMode_of_render {environment : Environment} {config : Config} {a : Artifact}
    (rendered : s.render environment config = .ok files)
    (own : a = files.unit ∨ a = files.settings) : Disk.keptMode a.mode = a.mode := by
  obtain ⟨unit, settings, -, -, rfl⟩ := eq_of_render rendered
  rcases own with rfl | rfl <;> rfl

end Service

/-- A call that asks for a reconciliation. -/
structure Reconciliation where
  service : Service
  environment : Environment
  config : Config
  trigger : Trigger

namespace Reconciliation

/-- The program of a call. -/
def program (r : Reconciliation) : Program (Except ReconcileFault Outcome) :=
  r.service.reconcile r.environment r.config r.trigger

/-- The files as they shall be after a call. -/
def rendering (r : Reconciliation) : Except RenderFault ServiceFiles :=
  r.service.render r.environment r.config

/-- Whether a call is not skipped: it is no poll, and there is a database. -/
structure IsDue (r : Reconciliation) : Prop where
  notPoll : r.trigger.event ≠ r.service.pollEvent
  hasDatabase : r.trigger.hasDatabase = true

/-- The requests of a call that starts from a view. -/
inductive Asks (r : Reconciliation) (v : View) : Request → View → Prop where
  | quiet {q : Request} {w : View} (quiet : q.isQuiet = true) : Asks r v q w
  | converging {files : ServiceFiles} {q : Request} {w : View} (due : r.IsDue)
      (rendered : r.rendering = .ok files) (asks : Upkeep.Asks r.service files v q w) : Asks r v q w

/-- The ends of a call that starts from a view. -/
inductive Ends (r : Reconciliation) (v : View) : Except ReconcileFault Outcome → Scene → Prop where
  | polled (poll : r.trigger.event = r.service.pollEvent) :
      Ends r v (.ok .unchanged) ⟨v, { reports := [(.active, WorkloadState.readyMessage)] }⟩
  | notReported (poll : r.trigger.event = r.service.pollEvent) (fault : StatusFault) :
      Ends r v (.error (.status fault))
        ⟨v, { reports := [(.active, WorkloadState.readyMessage)], failed := true }⟩
  | waiting (notPoll : r.trigger.event ≠ r.service.pollEvent)
      (noDatabase : r.trigger.hasDatabase = false) : Ends r v (.ok .unchanged) ⟨v, {}⟩
  | unrendered (due : r.IsDue) {fault : RenderFault} (refused : r.rendering = .error fault) :
      Ends r v (.error (.render fault)) ⟨v, {}⟩
  | converged (due : r.IsDue) {files : ServiceFiles} (rendered : r.rendering = .ok files)
      {result : Except ReconcileFault Outcome} {c : Scene}
      (ends : Upkeep.Ends r.service files v result c) : Ends r v result c

variable {r : Reconciliation}

/-- A call that is not skipped renders the files and converges. -/
theorem IsDue.once_eq (due : r.IsDue) :
    r.service.reconcileOnce r.environment r.config r.trigger =
      match r.rendering with
      | .error fault => throw (.render fault)
      | .ok files => r.service.converge files := by
  unfold Service.reconcileOnce
  rw [if_neg due.notPoll, if_pos due.hasDatabase]
  rfl

private theorem once_ensures (distinct : r.service.layout.unitPath ≠ r.service.layout.configPath) :
    (r.service.reconcileOnce r.environment r.config r.trigger).run.Ensures r.service.layout
      (r.Asks v) (r.Ends v) ⟨v, {}⟩ := by
  have quiet : AllowsQuiet (r.Asks v) := fun _ _ quiet => .quiet quiet
  let ok (outcome : Outcome) := r.Ends v (.ok outcome)
  let bad (fault : ReconcileFault) := r.Ends v (.error fault)
  have once : Action.Ensures r.service.layout (r.Asks v)
      (r.service.reconcileOnce r.environment r.config r.trigger) ⟨v, {}⟩ ok bad := by
    unfold Service.reconcileOnce
    split
    · rename_i poll
      refine .bind (.log quiet (.bind (.count quiet (.bind (Service.reportReady_ensures quiet ?_ ?_)))))
      · exact .pure (.polled poll)
      · exact fun fault => .notReported poll fault
    · rename_i notPoll
      split
      · rename_i hasDatabase
        have due : r.IsDue := ⟨notPoll, hasDatabase⟩
        split
        · rename_i fault refused
          exact .throw (.unrendered due refused)
        · rename_i files rendered
          have converges := Service.converge_ensures (v := v) (Service.lieAt_of_render rendered) distinct
          refine (converges.widen fun _ _ asks => .converging due rendered asks).mono ?_
          rintro (fault | outcome) c ends
          · exact .converged due rendered ends
          · exact .converged due rendered ends
      · rename_i noDatabase
        refine .bind (.log quiet (.bind (.count quiet (.pure (.waiting notPoll ?_)))))
        simpa using noDatabase
  refine once.mono ?_
  rintro (fault | outcome) c ends <;> exact ends

/-- Every call asks and ends as told, whatever it is answered. -/
theorem program_ensures (distinct : r.service.layout.unitPath ≠ r.service.layout.configPath) :
    r.program.Ensures r.service.layout (r.Asks v) (r.Ends v) ⟨v, {}⟩ := by
  refine Program.Ensures.bind ⟨.quiet rfl, fun _ _ => ?_⟩
  refine Program.Ensures.bind ((once_ensures distinct).mono fun result c ends => ?_)
  refine Program.Ensures.bind ⟨.quiet rfl, fun _ _ => ?_⟩
  cases result with
  | error fault => exact Program.Ensures.bind ⟨.quiet rfl, fun _ _ => ends⟩
  | ok outcome =>
    cases outcome with
    | applied => exact Program.Ensures.bind ⟨.quiet rfl, fun _ _ => ends⟩
    | unchanged => exact ends

/-- Where the files can be rendered, a call that is not skipped ends as their reconciliation. -/
theorem Ends.of_due {result : Except ReconcileFault Outcome} {c : Scene} (ends : r.Ends v result c)
    (due : r.IsDue) (rendered : r.rendering = .ok files) :
    Upkeep.Ends r.service files v result c := by
  cases ends with
  | polled poll => exact absurd poll due.notPoll
  | notReported poll fault => exact absurd poll due.notPoll
  | waiting notPoll noDatabase => cases noDatabase.symm.trans due.hasDatabase
  | unrendered due refused => cases refused.symm.trans rendered
  | converged due same ends =>
    cases same.symm.trans rendered
    exact ends

/-- A restart is asked for only when both files are as rendered and a reload that was due has been
done. -/
theorem restart_asked {unit : String} {t u : Surroundings} {exchanges : List Exchange}
    {next : Answer (.restart unit) → Program (Except ReconcileFault Outcome)}
    (distinct : r.service.layout.unitPath ≠ r.service.layout.configPath)
    (runs : r.program.Runs r.service.layout t exchanges (.ask (.restart unit) next) u) :
    ∃ files, r.rendering = .ok files ∧ unit = r.service.layout.serviceName ∧
      u.view r.service.layout = (t.view r.service.layout).reloaded files := by
  have asks := (Program.Ensures.of_runs distinct (r.program_ensures distinct) runs).1
  cases asks with
  | quiet quiet => cases quiet
  | converging due rendered asks =>
    obtain ⟨-, rfl, same⟩ := asks.of_restart
    exact ⟨_, rendered, rfl, same⟩

end Reconciliation

end Upkeep
