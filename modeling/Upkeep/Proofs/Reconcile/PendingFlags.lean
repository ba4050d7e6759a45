import Upkeep.Proofs.Reconcile.Rehearsals

/-! The pending flags cover all that is not in force yet: a unit that the service manager has not
read, and files that the service was not started from. That holds at every point of every history
of calls, whatever was refused in it and wherever calls were cut short. -/
namespace Upkeep

/-- What is on disk is in force, unless a flag says that it is not. -/
structure View.Covered (v : View) : Prop where
  reload : v.files.unit ≠ v.loaded → v.flags.isSet Flags.reloadPending = true
  restart : v.files ≠ v.started → v.flags.isSet Flags.restartPending = true

namespace View

variable {v w : View} {files : ServiceFiles} {l : Layout} {s : Service}

theorem after_quiet {r : Request} (quiet : r.isQuiet = true) (answer : Answer r) :
    v.after l r answer = v := by
  cases r <;> first | rfl | cases quiet

/-- After a reload, if one was due, the service manager has read the unit as it shall be. -/
theorem Covered.loaded_reloaded (covered : v.Covered) :
    (v.reloaded files).loaded = some files.unit.bytes := by
  cases due : v.mustReload files with
  | true => simp only [View.reloaded, due, ↓reduceIte]
  | false =>
    simp only [View.mustReload, View.unitStale, Bool.or_eq_false_iff, bne_eq_false_iff_eq] at due
    obtain ⟨inPlace, unset⟩ := due
    have inForce : v.files.unit = v.loaded :=
      Decidable.byContradiction fun differs =>
        Bool.false_ne_true (unset.symm.trans (covered.reload differs))
    simp only [View.reloaded, View.mustReload, View.unitStale, inPlace, unset, bne_self_eq_false,
      Bool.or_self, Bool.false_eq_true, ↓reduceIte]
    exact inForce.symm.trans inPlace

/-- Setting a flag keeps what is covered. -/
private theorem Covered.insert_true (covered : v.Covered) (name : String) :
    ({ v with flags := v.flags.insert name true } : View).Covered := by
  constructor <;> intro differs <;> simp only [Flags.isSet_insert] <;> split
  · rfl
  · exact covered.reload differs
  · rfl
  · exact covered.restart differs

/-- Once the service has been restarted, no flag is needed any more. -/
private theorem Covered.of_restarted (start : v.Covered) (kept : w.files = files.served)
    (loaded : w.loaded = (v.reloaded files).loaded) (started : w.started = files.served) :
    w.Covered := by
  refine ⟨fun differs => absurd ?_ differs, fun differs => absurd ?_ differs⟩
  · rw [kept, loaded, start.loaded_reloaded]
    rfl
  · rw [kept, started]

/-- One request of a reconciliation keeps what is covered, however it is answered. -/
theorem Covered.step (distinct : s.layout.unitPath ≠ s.layout.configPath) (start : v.Covered)
    (covered : w.Covered) {r : Request} (asks : Asks s files v r w) (answer : Answer r) :
    (w.after s.layout r answer).Covered := by
  cases asks with
  | quiet quiet => rwa [after_quiet quiet]
  | markReload stale =>
    cases answer with
    | error fault => exact covered
    | ok done => exact covered.insert_true _
  | markRestart stale =>
    cases answer with
    | error fault => exact covered
    | ok done => exact covered.insert_true _
  | writeUnit stale =>
    cases answer with
    | error fault => exact covered
    | ok done =>
      refine ⟨fun _ => ?_, fun _ => ?_⟩ <;> rw [View.after, store_flags]
      · exact isSet_reloadPending_marked.trans (mustReload_of_unitStale stale)
      · exact isSet_restartPending_marked.trans (mustRestart_of_unitStale stale)
  | writeSettings stale =>
    cases answer with
    | error fault => exact covered
    | ok done =>
      constructor <;> intro differs
      · rw [View.after, store_unit_of_ne distinct.symm, store_loaded] at differs
        rw [View.after, store_flags]
        exact covered.reload differs
      · rw [View.after, store_flags]
        exact isSet_restartPending_marked.trans (mustRestart_of_settingsStale stale)
  | reload due stale =>
    cases answer with
    | error fault => exact covered
    | ok done => exact ⟨fun differs => absurd rfl differs, covered.restart⟩
  | restart due =>
    cases answer with
    | error fault => exact covered
    | ok done => exact ⟨covered.reload, fun differs => absurd rfl differs⟩
  | configure due =>
    cases answer with
    | error fault => exact covered
    | ok done => exact covered.insert_true _
  | clearReload due =>
    cases answer with
    | error fault => exact covered
    | ok done => exact start.of_restarted rfl rfl rfl
  | clearRestart due =>
    cases answer with
    | error fault => exact covered
    | ok done => exact start.of_restarted rfl rfl rfl

end View

namespace Surroundings

/-- What is on disk is what the service manager has read and what the service was started from. -/
structure InForce (l : Layout) (s : Surroundings) : Prop where
  loaded : s.loaded = (s.files l).unit
  started : s.started = s.files l

/-- What surroundings can become: calls for one layout follow one another, each to its end or cut
short, and others change what they like of the rest of the disk. -/
inductive Reachable (l : Layout) (s : Surroundings) : Surroundings → Prop where
  | start : Reachable l s s
  | call {t u : Surroundings} {r : Reconciliation} {exchanges : List Exchange}
      {rest : Program (Except ReconcileFault Outcome)} (reached : Reachable l s t)
      (same : r.service.layout = l) (runs : r.program.Runs l t exchanges rest u) : Reachable l s u
  | others {t : Surroundings} {disk : Disk} (reached : Reachable l s t)
      (spared : Spared l t.disk disk) : Reachable l s { t with disk }

variable {l : Layout} {s t u : Surroundings} {r : Reconciliation} {exchanges : List Exchange}
  {rest : Program (Except ReconcileFault Outcome)}

theorem InForce.covered (inForce : s.InForce l) : (s.view l).Covered :=
  ⟨fun differs => absurd inForce.loaded.symm differs,
    fun differs => absurd inForce.started.symm differs⟩

/-- A call keeps what is covered, however far it comes. -/
theorem covered_of_runs (distinct : r.service.layout.unitPath ≠ r.service.layout.configPath)
    (runs : r.program.Runs r.service.layout t exchanges rest u)
    (start : (t.view r.service.layout).Covered) : (u.view r.service.layout).Covered := by
  refine Program.Ensures.invariant distinct ?_ (r.program_ensures distinct) runs start
  intro q w answer asks covered
  cases asks with
  | quiet quiet => rwa [View.after_quiet quiet]
  | converging due rendered asks => exact start.step distinct covered asks answer

theorem Reachable.covered (distinct : l.unitPath ≠ l.configPath) (inForce : s.InForce l)
    (reached : Reachable l s t) : (t.view l).Covered := by
  induction reached with
  | start => exact inForce.covered
  | call reached same runs ih =>
    subst same
    exact covered_of_runs distinct runs ih
  | others reached spared ih => rwa [view_of_spared spared]

/-- Whatever was refused and wherever calls were cut short, a unit that the service manager has not
read is covered by the flag for a reload, and files that the service does not run with by the flag
for a restart. Any restart happens after the unit on disk has been read, and with both files as
rendered. -/
theorem Reachable.pending_flags_cover (distinct : l.unitPath ≠ l.configPath)
    (inForce : s.InForce l) (reached : Reachable l s t) :
    ((t.files l).unit ≠ t.loaded → t.flags.isSet Flags.reloadPending = true) ∧
      (t.files l ≠ t.started → t.flags.isSet Flags.restartPending = true) ∧
      ∀ (r : Reconciliation) (unit : String)
        (next : Answer (.restart unit) → Program (Except ReconcileFault Outcome))
        (exchanges : List Exchange) (u : Surroundings), r.service.layout = l →
        r.program.Runs l t exchanges (.ask (.restart unit) next) u →
        unit = l.serviceName ∧ u.loaded = (u.files l).unit ∧
          ∃ files, r.rendering = .ok files ∧ u.files l = files.served := by
  have covered := reached.covered distinct inForce
  refine ⟨covered.reload, covered.restart, fun r unit next exchanges u same runs => ?_⟩
  subst same
  obtain ⟨files, rendered, named, atRestart⟩ := r.restart_asked distinct runs
  have served : u.files r.service.layout = files.served := congrArg View.files atRestart
  have loaded : u.loaded = some files.unit.bytes :=
    (congrArg View.loaded atRestart).trans covered.loaded_reloaded
  exact ⟨named, by rw [loaded, served, ServiceFiles.unit_served], files, rendered, served⟩

open Reconciliation in
/-- After a first call that found nothing installed and was refused nothing, what it has put on disk
is in force, as no flag is set. -/
theorem in_force_after_installation : ∃ t : Surroundings,
    bare.InForce installation.service.layout ∧ bare.Reachable installation.service.layout t ∧
      t.disk.content? installation.service.layout.unitPath ≠ none ∧
      t.InForce installation.service.layout := by
  have inForce : bare.InForce installation.service.layout := by
    constructor <;> decide +kernel
  obtain ⟨t, runs, shown⟩ := installation.runs_of_rehearsal installation_apart (Rehearsal.bare_shows {})
  have reached : bare.Reachable installation.service.layout t := .call .start rfl runs
  have cover := reached.pending_flags_cover installation_apart.distinct inForce
  obtain ⟨-, -, installed, unset⟩ := installation_leaves
  have reload : t.flags.isSet Flags.reloadPending = false :=
    shown.isSet_of_get (unset _ List.mem_cons_self)
  have restart : t.flags.isSet Flags.restartPending = false :=
    shown.isSet_of_get (unset _ (List.mem_cons_of_mem _ List.mem_cons_self))
  refine ⟨t, inForce, reached, ?_, ?_, ?_⟩
  · rwa [shown.content?]
  · refine Decidable.byContradiction fun differs => ?_
    cases reload.symm.trans (cover.1 (Ne.symm differs))
  · refine Decidable.byContradiction fun differs => ?_
    cases restart.symm.trans (cover.2.1 (Ne.symm differs))

end Surroundings

end Upkeep
