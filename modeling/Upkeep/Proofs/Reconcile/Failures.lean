import Upkeep.Proofs.Reconcile.Effect

/-! What a call leaves behind when it fails. Each kind of fault tells how far the call came: what
has been written and marked by then, which commands were given, and what was reported. -/
namespace Upkeep

/-- What a call leaves behind, by the fault that it ends in. -/
def Reconciliation.Leaves (r : Reconciliation) (before after : Surroundings) (f : Footprint) :
    ReconcileFault → Prop
  | .render _ => after = before ∧ f.Untouched ∧ f.reports = []
  | .artifact _ => f.commands = [] ∧ f.reports = [] ∧
      -- the first two reads compare the files with what they shall be
      (f.reads.length ≤ 2 → after = before ∧ f.Untouched)
  | .flag _ => f.reports = [] ∧ (f.commands ≠ [] → ∃ files, r.rendering = .ok files ∧
      f.commands.getLast? = some (.restart r.service.layout.serviceName, .ok ()) ∧
      after.files r.service.layout = files.served ∧
      after.flags.isSet Flags.restartPending = true)
  | .service fault => ∃ files command, r.rendering = .ok files ∧
      f.commands.getLast? = some (command, .error fault) ∧
      f.reports = [(.blocked, WorkloadState.restartFailedMessage)] ∧
      after.files r.service.layout = files.served ∧
      after.flags.isSet Flags.restartPending = true ∧
      after.flags.isSet Flags.configured = before.flags.isSet Flags.configured
  | .status _ => f.reports = [(.active, WorkloadState.readyMessage)] ∧
      (after = before ∧ f.Untouched ∨ ∃ files, r.rendering = .ok files ∧
        f.commands.getLast? = some (.restart r.service.layout.serviceName, .ok ()) ∧
        after.files r.service.layout = files.served ∧
        after.flags.isSet Flags.configured = true ∧
        after.flags.isSet Flags.reloadPending = false ∧
        after.flags.isSet Flags.restartPending = false)

namespace Reconciliation

variable {r : Reconciliation} {fault : ReconcileFault} {s t : Surroundings}
  {exchanges : List Exchange}

private theorem leaves_of_ends {files : ServiceFiles}
    (rendered : r.rendering = .ok files)
    (untouched : (Footprint.of exchanges).Untouched → t = s)
    (ends : Upkeep.Ends r.service files (s.view r.service.layout) (.error fault)
      ⟨t.view r.service.layout, Footprint.of exchanges⟩) :
    r.Leaves s t (Footprint.of exchanges) fault := by
  cases fault with
  | render fault => exact ends.elim
  | artifact fault =>
    obtain ⟨-, commands, reports, early⟩ := ends
    refine ⟨commands, reports, fun few => ?_⟩
    obtain ⟨-, writes, marks⟩ := early few
    exact ⟨untouched ⟨writes, marks, commands⟩, writes, marks, commands⟩
  | flag fault =>
    obtain ⟨-, reports, commands⟩ := ends
    refine ⟨reports, fun given => ?_⟩
    rcases commands with none | ⟨commands, served, pending⟩
    · exact absurd none given
    · exact ⟨files, rendered, commands ▸ View.getLast?_restartCommands .., served, pending⟩
  | service fault =>
    obtain ⟨due, -, commands, reports, served, flags⟩ := ends
    have last : ∃ command, (Footprint.of exchanges).commands.getLast? =
        some (command, .error fault) := by
      rcases commands with reload | restart
      · exact ⟨.reloadUnits, congrArg List.getLast? reload⟩
      · exact ⟨_, (congrArg List.getLast? restart).trans (View.getLast?_restartCommands ..)⟩
    obtain ⟨command, last⟩ := last
    refine ⟨files, command, rendered, last, reports, served, ?_, ?_⟩
    · exact (congrArg (Flags.isSet · _) flags).trans (View.isSet_restartPending_marked.trans due)
    · exact (congrArg (Flags.isSet · _) flags).trans
        (View.isSet_marked_of_ne (by decide) (by decide))
  | status fault =>
    rcases ends with ⟨settled, same⟩ | ⟨due, same⟩
    · obtain ⟨-, footprint⟩ := Scene.mk.inj same
      have kept : (View.preparation _ files).Untouched :=
        ⟨View.staleWrites_of_not_due settled, View.pendingMarks_of_not_due settled, rfl⟩
      rw [footprint] at untouched ⊢
      refine ⟨rfl, .inl ⟨untouched ?_, ?_⟩⟩ <;> exact ⟨kept.writes, kept.marks, kept.commands⟩
    · obtain ⟨view, footprint⟩ := Scene.mk.inj same
      have flags : t.flags = _ := congrArg View.flags view
      rw [footprint]
      refine ⟨rfl, .inr ⟨files, rendered, View.getLast?_restartCommands .., ?_⟩⟩
      exact ⟨congrArg View.files view, flags ▸ View.isSet_configured_settled,
        flags ▸ View.isSet_reloadPending_settled, flags ▸ View.isSet_restartPending_settled⟩

/-- A call that fails leaves behind what its fault tells, whatever else was refused on the way. -/
theorem leaves_of_fault (distinct : r.service.layout.unitPath ≠ r.service.layout.configPath)
    (runs : r.program.Runs r.service.layout s exchanges (.done (.error fault)) t) :
    r.Leaves s t (Footprint.of exchanges) fault := by
  have ends := Program.Ensures.of_complete distinct (r.program_ensures distinct) runs
  have untouched (kept : (Footprint.of exchanges).Untouched) : t = s := kept.eq_of_runs runs
  generalize same : Scene.mk (t.view r.service.layout) (Footprint.of exchanges) = c at ends
  cases ends with
  | notReported poll fault =>
    obtain ⟨-, footprint⟩ := Scene.mk.inj same
    rw [footprint] at untouched ⊢
    exact ⟨rfl, .inl ⟨untouched ⟨rfl, rfl, rfl⟩, rfl, rfl, rfl⟩⟩
  | unrendered due refused =>
    obtain ⟨-, footprint⟩ := Scene.mk.inj same
    rw [footprint] at untouched ⊢
    exact ⟨untouched ⟨rfl, rfl, rfl⟩, ⟨rfl, rfl, rfl⟩, rfl⟩
  | converged due rendered ends => exact leaves_of_ends rendered untouched (same ▸ ends)

/-- A first call whose restart is refused leaves both files in place, with the restart pending. -/
theorem leaves_of_refused_restart : ∃ (exchanges : List Exchange) (fault : ReconcileFault)
    (t : Surroundings),
    installation.program.Runs installation.service.layout .bare exchanges (.done (.error fault)) t ∧
      t.disk.content? installation.service.layout.unitPath ≠ none ∧
      installation.Leaves .bare t (Footprint.of exchanges) fault := by
  let plan : FailurePlan := { restart := fun unit => some (.failed unit (some 1) {}) }
  obtain ⟨t, runs, shown⟩ := installation.runs_of_rehearsal installation_apart
    (Rehearsal.bare_shows plan)
  obtain ⟨failed, installed⟩ :
      (installation.program.run Rehearsal.host (.bare plan)).1.toOption = none ∧
        (installation.program.run Rehearsal.host (.bare plan)).2.disk.content?
          installation.service.layout.unitPath ≠ none := by
    decide +kernel
  have written : t.disk.content? installation.service.layout.unitPath ≠ none := by
    rwa [shown.content?]
  generalize (installation.program.run Rehearsal.host (.bare plan)).1 = result at runs failed
  cases result with
  | ok outcome => cases failed
  | error fault =>
    exact ⟨_, fault, t, runs, written, leaves_of_fault installation_apart.distinct runs⟩

end Reconciliation

end Upkeep
