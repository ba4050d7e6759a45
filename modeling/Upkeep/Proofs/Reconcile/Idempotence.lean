import Upkeep.Proofs.Reconcile.Rehearsals

/-! Once a call has brought everything in line, further calls for the same files find nothing to do:
they only read, log and report, whatever is refused and wherever they are cut short. -/
namespace Upkeep

/-- When no restart is due, a reconciliation makes quiet requests only. -/
theorem Asks.quiet_of_not_due {s : Service} {files : ServiceFiles} {v w : View} {r : Request}
    (settled : v.mustRestart files = false) (asks : Asks s files v r w) : r.isQuiet = true := by
  have contradiction {p : Prop} (due : v.mustRestart files = true) : p := by
    cases settled.symm.trans due
  cases asks with
  | quiet quiet => exact quiet
  | markReload stale => exact contradiction (View.mustRestart_of_unitStale stale)
  | markRestart stale => cases (View.isStale_of_not_due settled).symm.trans stale
  | writeUnit stale => exact contradiction (View.mustRestart_of_unitStale stale)
  | writeSettings stale => exact contradiction (View.mustRestart_of_settingsStale stale)
  | reload due stale => exact contradiction due
  | restart due => exact contradiction due
  | configure due => exact contradiction due
  | clearReload due => exact contradiction due
  | clearRestart due => exact contradiction due

/-- A call comes through when it ends well, or when only the report at its end fails. -/
inductive ComesThrough : Except ReconcileFault Outcome → Prop where
  | done (outcome : Outcome) : ComesThrough (.ok outcome)
  | notReported (fault : StatusFault) : ComesThrough (.error (.status fault))

/-- A reconciliation that comes through leaves no restart due. -/
theorem Ends.not_due {s : Service} {files : ServiceFiles} {v : View}
    {result : Except ReconcileFault Outcome} {c : Scene} (through : ComesThrough result)
    (ends : Ends s files v result c) : c.view.mustRestart files = false := by
  cases through with
  | done outcome =>
    cases outcome with
    | unchanged =>
      obtain ⟨notDue, rfl⟩ := ends
      exact notDue
    | applied =>
      obtain ⟨-, rfl⟩ := ends
      exact View.settled_not_due v files
  | notReported fault =>
    rcases ends with ⟨notDue, rfl⟩ | ⟨-, rfl⟩
    · exact notDue
    · exact View.settled_not_due v files

namespace Reconciliation

variable {r : Reconciliation} {files : ServiceFiles} {v : View} {s t : Surroundings}
  {exchanges : List Exchange} {result : Except ReconcileFault Outcome}

/-- When a call comes through that is not skipped, its files could be rendered, and no restart is
due any more. -/
theorem Ends.settled {c : Scene} (ends : r.Ends v result c) (due : r.IsDue)
    (through : ComesThrough result) :
    ∃ files, r.rendering = .ok files ∧ c.view.mustRestart files = false := by
  cases ends with
  | polled poll => exact absurd poll due.notPoll
  | notReported poll fault => exact absurd poll due.notPoll
  | waiting notPoll noDatabase => cases noDatabase.symm.trans due.hasDatabase
  | unrendered due refused => cases through
  | converged due rendered ends => exact ⟨_, rendered, Upkeep.Ends.not_due through ends⟩

/-- When no restart is due for the files of a call, or the call is skipped, all its requests are
quiet. -/
theorem Asks.quiet_of_not_due {q : Request} {w : View}
    (settled : r.IsDue → ∀ files, r.rendering = .ok files → v.mustRestart files = false)
    (asks : r.Asks v q w) : q.isQuiet = true := by
  cases asks with
  | quiet quiet => exact quiet
  | converging due rendered asks => exact asks.quiet_of_not_due (settled due _ rendered)

/-- A call that finds everything in line reports that nothing has changed. -/
theorem Ends.unchanged {c : Scene} (ends : r.Ends v result c) (due : r.IsDue)
    (rendered : r.rendering = .ok files) (settled : v.mustRestart files = false)
    (clean : c.footprint.failed = false) : result = .ok .unchanged := by
  have ends := ends.of_due due rendered
  match result, ends with
  | .ok .unchanged, _ => rfl
  | .ok .applied, ⟨restart, _⟩ => cases settled.symm.trans restart
  | .error fault, ends => cases clean.symm.trans ends.failed

end Reconciliation

/-- A call as it went: what it asked for, and what was left to do when it ended or was cut
short. -/
structure Went where
  call : Reconciliation
  exchanges : List Exchange
  rest : Program (Except ReconcileFault Outcome)

/-- Calls for one layout that follow one another directly. -/
inductive Follow (l : Layout) : Surroundings → List Went → Surroundings → Prop where
  | none (s : Surroundings) : Follow l s [] s
  | call {s t u : Surroundings} {went : Went} {later : List Went}
      (same : went.call.service.layout = l)
      (runs : went.call.program.Runs l s went.exchanges went.rest t) (more : Follow l t later u) :
      Follow l s (went :: later) u

/-- Calls that want the same files: the configuration, the environment, the user and the layout are
the same, while event and trigger may differ. -/
structure Reconciliation.SameFiles (r other : Reconciliation) : Prop where
  layout : other.service.layout = r.service.layout
  user : other.service.user = r.service.user
  environment : other.environment = r.environment
  config : other.config = r.config

theorem Reconciliation.SameFiles.rendering_eq {r other : Reconciliation}
    (same : r.SameFiles other) : other.rendering = r.rendering := by
  simp only [Reconciliation.rendering, Service.render, Service.unit, same.layout, same.user,
    same.environment, same.config]

namespace Went

variable {went : Went} {l : Layout} {files : ServiceFiles} {s t : Surroundings}

/-- Whether a call has nothing to do: it asked quiet requests only, and if it was not skipped, was
refused nothing and came to its end, it reported that nothing has changed. -/
structure Idle (went : Went) : Prop where
  quiet : ∀ e ∈ went.exchanges, e.request.isQuiet = true
  unchanged : went.call.IsDue → (∀ e ∈ went.exchanges, e.failed = false) →
    ∀ result, went.rest = .done result → result = .ok .unchanged

/-- A call that finds everything in line has nothing to do and changes nothing. -/
theorem idle_of_settled (distinct : l.unitPath ≠ l.configPath)
    (settled : (s.view l).mustRestart files = false) (same : went.call.service.layout = l)
    (rendered : went.call.IsDue → went.call.rendering = .ok files)
    (runs : went.call.program.Runs l s went.exchanges went.rest t) : t = s ∧ went.Idle := by
  subst same
  have ensures := went.call.program_ensures (v := s.view went.call.service.layout) distinct
  have quiet : ∀ e ∈ went.exchanges, e.request.isQuiet = true := by
    refine runs.forall_requests distinct (fun _ _ asks => asks.quiet_of_not_due ?_) ensures
    intro due other rendered'
    cases (rendered due).symm.trans rendered'
    exact settled
  refine ⟨runs.eq_of_quiet quiet, quiet, fun due unfailed result ended => ?_⟩
  rw [ended] at runs
  refine (ensures.of_complete distinct runs).unchanged due (rendered due) settled ?_
  simpa [Footprint.failed_of] using unfailed

end Went

/-- Calls that find everything in line change nothing, however many there are. -/
theorem Follow.idle_of_settled {l : Layout} {files : ServiceFiles} {s t : Surroundings}
    {calls : List Went} (distinct : l.unitPath ≠ l.configPath)
    (settled : (s.view l).mustRestart files = false)
    (rendered : ∀ went ∈ calls, went.call.IsDue → went.call.rendering = .ok files)
    (follow : Follow l s calls t) : t = s ∧ ∀ went ∈ calls, went.Idle := by
  induction follow with
  | none s => exact ⟨rfl, List.forall_mem_nil _⟩
  | call same runs more ih =>
    obtain ⟨now, later⟩ := List.forall_mem_cons.mp rendered
    obtain ⟨rfl, idle⟩ := Went.idle_of_settled distinct settled same now runs
    obtain ⟨kept, allIdle⟩ := ih settled later
    exact ⟨kept, List.forall_mem_cons.mpr ⟨idle, allIdle⟩⟩

/-- After a call that comes through, further calls for the same files change nothing, whatever their
events are, whatever they are refused, and wherever calls that are skipped stand between them. -/
theorem Reconciliation.idempotent {r : Reconciliation} {result : Except ReconcileFault Outcome}
    {s t u : Surroundings} {exchanges : List Exchange} {later : List Went}
    (distinct : r.service.layout.unitPath ≠ r.service.layout.configPath) (due : r.IsDue)
    (runs : r.program.Runs r.service.layout s exchanges (.done result) t)
    (through : ComesThrough result)
    (same : ∀ went ∈ later, went.call.IsDue → r.SameFiles went.call)
    (follow : Follow r.service.layout t later u) : u = t ∧ ∀ went ∈ later, went.Idle := by
  have ends := Program.Ensures.of_complete distinct (r.program_ensures distinct) runs
  obtain ⟨files, rendered, settled⟩ := ends.settled due through
  refine Follow.idle_of_settled distinct settled (fun went member due => ?_) follow
  rw [(same went member due).rendering_eq, rendered]

open Reconciliation in
/-- A first call that is made again changes nothing the second time. -/
theorem Reconciliation.installation_again : ∃ (t : Surroundings) (went : Went),
    t.disk.content? installation.service.layout.unitPath ≠ none ∧ went.call = installation ∧
      Follow installation.service.layout t [went] t ∧ went.Idle := by
  obtain ⟨t, runs, shown⟩ := installation.runs_of_rehearsal installation_apart (Rehearsal.bare_shows {})
  obtain ⟨exchanges, rest, u, again⟩ : ∃ exchanges rest u,
      installation.program.Runs installation.service.layout t exchanges rest u := by
    obtain ⟨u, again, -⟩ := installation.runs_of_rehearsal installation_apart shown
    exact ⟨_, _, u, again⟩
  let went : Went := ⟨installation, exchanges, rest⟩
  have follow : Follow installation.service.layout t [went] u := .call rfl again (.none u)
  have same : ∀ other ∈ [went], other.call.IsDue → installation.SameFiles other.call := by
    intro other member _
    cases List.mem_singleton.mp member
    exact ⟨rfl, rfl, rfl, rfl⟩
  have through : ComesThrough (installation.program.run Rehearsal.host (.bare {})).1 := by
    rw [installation_applied]
    exact .done .applied
  obtain ⟨rfl, idle⟩ := idempotent installation_apart.distinct installation_isDue runs through same
    follow
  refine ⟨u, went, ?_, rfl, follow, idle went List.mem_cons_self⟩
  rw [shown.content?]
  exact installation_leaves.2.2.1

end Upkeep
