import Upkeep.Proofs.Reconcile.Rehearsals

/-! What a call does in which nothing fails: from any state, one such call brings files, flags and
service in line, with no command and no replacement more than that takes. -/
namespace Upkeep

/-- The effect of a call on the files, the flags and the service, with what it asked for. -/
structure Effect (l : Layout) (files : ServiceFiles) (before after : Surroundings) (f : Footprint)
    (outcome : Outcome) : Prop where
  applied_iff : outcome = .applied ↔
    (before.files l).unit ≠ some files.unit.bytes ∨
      (before.files l).settings ≠ some files.settings.bytes ∨
        before.flags.isSet Flags.restartPending = true
  /-- The units are read again, and the service is restarted after that. -/
  reload_and_restart : outcome = .applied →
    (before.files l).unit ≠ some files.unit.bytes ∨
      before.flags.isSet Flags.reloadPending = true →
    f.commands = [(.reloadUnits, .ok ()), (.restart l.serviceName, .ok ())]
  /-- The service is only restarted. -/
  restart_only : outcome = .applied → (before.files l).unit = some files.unit.bytes →
    before.flags.isSet Flags.reloadPending = false →
    f.commands = [(.restart l.serviceName, .ok ())]
  no_command : outcome = .unchanged → f.commands = []
  served : after.files l = files.served
  unit_kept : (before.files l).unit = some files.unit.bytes → l.unitPath ∉ f.writes
  settings_kept : (before.files l).settings = some files.settings.bytes → l.configPath ∉ f.writes
  no_restart_pending : after.flags.isSet Flags.restartPending = false
  no_reload_pending : outcome = .applied → after.flags.isSet Flags.reloadPending = false
  configured : outcome = .applied → after.flags.isSet Flags.configured = true
  flags_unchanged : outcome = .unchanged → after.flags = before.flags
  other_flags : ∀ name, name ≠ Flags.configured → name ≠ Flags.reloadPending →
    name ≠ Flags.restartPending → after.flags.isSet name = before.flags.isSet name
  /-- After a restart, the service runs with the files as they are. -/
  started : outcome = .applied → after.started = after.files l
  reports : f.reports = [(.active, WorkloadState.readyMessage)]

namespace Effect

variable {s : Service} {files : ServiceFiles} {before after : Surroundings} {f : Footprint}

/-- The effect when nothing is restarted. -/
theorem of_unchanged
    (ends : Ends s files (before.view s.layout) (.ok .unchanged) ⟨after.view s.layout, f⟩) :
    Effect s.layout files before after f .unchanged := by
  obtain ⟨notDue, same⟩ := ends
  obtain ⟨kept, rfl⟩ := Scene.mk.inj same
  obtain ⟨served, unset⟩ := View.mustRestart_eq_false_iff.mp notDue
  have flags : after.flags = before.flags := congrArg View.flags kept
  have writes : (before.view s.layout).staleWrites files = [] :=
    View.staleWrites_of_not_due notDue
  exact {
    applied_iff := by
      refine ⟨nofun, fun due => ?_⟩
      cases notDue.symm.trans (View.mustRestart_iff.mpr due)
    reload_and_restart := nofun
    restart_only := nofun
    no_command := fun _ => rfl
    served := (congrArg View.files kept).trans served
    unit_kept := fun _ => by simp [View.preparation, Footprint.report, writes]
    settings_kept := fun _ => by simp [View.preparation, Footprint.report, writes]
    no_restart_pending := flags ▸ unset
    no_reload_pending := nofun
    configured := nofun
    flags_unchanged := fun _ => flags
    other_flags := fun name _ _ _ => by rw [flags]
    started := nofun
    reports := rfl }

/-- The effect when the service is restarted. -/
theorem of_applied (own : files.LieAt s.layout)
    (distinct : s.layout.unitPath ≠ s.layout.configPath)
    (ends : Ends s files (before.view s.layout) (.ok .applied) ⟨after.view s.layout, f⟩) :
    Effect s.layout files before after f .applied := by
  obtain ⟨due, same⟩ := ends
  obtain ⟨settled, rfl⟩ := Scene.mk.inj same
  have flags : after.flags = _ := congrArg View.flags settled
  exact {
    applied_iff := ⟨fun _ => View.mustRestart_iff.mp due, fun _ => rfl⟩
    reload_and_restart := fun _ stale => by
      have reload : (before.view s.layout).mustReload files = true := View.mustReload_iff.mpr stale
      simp [View.completion, View.restartCommands, reload]
    restart_only := fun _ fresh unset => by
      have noReload : (before.view s.layout).mustReload files = false :=
        View.mustReload_eq_false_iff.mpr ⟨fresh, unset⟩
      simp [View.completion, View.restartCommands, noReload]
    no_command := nofun
    served := congrArg View.files settled
    unit_kept := fun fresh => View.unitPath_not_mem_staleWrites own distinct fresh
    settings_kept := fun fresh => View.configPath_not_mem_staleWrites own distinct fresh
    no_restart_pending := flags ▸ View.isSet_restartPending_settled
    no_reload_pending := fun _ => flags ▸ View.isSet_reloadPending_settled
    configured := fun _ => flags ▸ View.isSet_configured_settled
    flags_unchanged := nofun
    other_flags := fun _ configured reload restart =>
      flags ▸ View.isSet_settled_of_ne configured reload restart
    started := fun _ =>
      (congrArg View.started settled).trans (congrArg View.files settled).symm
    reports := rfl }

end Effect

namespace Reconciliation

variable {r : Reconciliation} {files : ServiceFiles} {s t : Surroundings}
  {exchanges : List Exchange} {result : Except ReconcileFault Outcome}

/-- A call that is not skipped, whose files can be rendered and in which nothing fails ends well,
and has the effect that the files and the pending flags call for. -/
theorem effect_of_unfailed
    (distinct : r.service.layout.unitPath ≠ r.service.layout.configPath) (due : r.IsDue)
    (rendered : r.rendering = .ok files)
    (runs : r.program.Runs r.service.layout s exchanges (.done result) t)
    (unfailed : ∀ e ∈ exchanges, e.failed = false) :
    ∃ outcome, result = .ok outcome ∧
      Effect r.service.layout files s t (Footprint.of exchanges) outcome := by
  have clean : (Footprint.of exchanges).failed ≠ true := by
    simpa [Footprint.failed_of] using unfailed
  have ends := (Program.Ensures.of_complete distinct (r.program_ensures distinct) runs).of_due due
    rendered
  have own := Service.lieAt_of_render rendered
  cases result with
  | ok outcome =>
    cases outcome with
    | unchanged => exact ⟨.unchanged, rfl, .of_unchanged ends⟩
    | applied => exact ⟨.applied, rfl, .of_applied own distinct ends⟩
  | error fault => exact absurd (Ends.failed ends) clean

/-- A first call that is refused nothing restarts the service with its files in place. -/
theorem effect_of_installation : ∃ files t, installation.rendering = .ok files ∧
    installation.program.Runs installation.service.layout .bare
      (installation.program.exchanges Rehearsal.host (.bare {})) (.done (.ok .applied)) t ∧
    Effect installation.service.layout files .bare t
      (Footprint.of (installation.program.exchanges Rehearsal.host (.bare {}))) .applied := by
  obtain ⟨files, rendered⟩ := installation_rendering
  obtain ⟨t, runs, -⟩ := installation.runs_of_rehearsal installation_apart (Rehearsal.bare_shows {})
  have applied := installation_applied
  obtain ⟨outcome, same, effect⟩ := effect_of_unfailed installation_apart.distinct
    installation_isDue rendered runs installation_leaves.2.1
  obtain rfl := Except.ok.inj (same.symm.trans applied)
  exact ⟨files, t, rendered, applied ▸ runs, effect⟩

end Reconciliation

end Upkeep
