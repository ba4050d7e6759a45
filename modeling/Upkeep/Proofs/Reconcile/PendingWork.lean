import Upkeep.Proofs.MayEnd
import Upkeep.Proofs.Reconcile.FlagHistory
import Upkeep.Proofs.Reconcile.Rehearsals

/-! What pending flags are left by calls that end well. The flag for a restart never is. The one for
a reload is only where a call was refused the mark for the restart after the one for the reload: as
long as none was, both flags are marked together, so whoever finds no restart pending finds no
reload pending either. -/
namespace Upkeep

/-- The mark for a restart was refused. -/
def Exchange.RefusesMark (e : Exchange) : Prop :=
  ∃ fault, e = ⟨.setFlag Flags.restartPending true, .error fault⟩

/-- A call that came to its end. -/
def Completes (_ : List Exchange) (rest : Program (Except ReconcileFault Outcome)) : Prop :=
  ∃ result, rest = .done result

/-- A call that came to its end and in which no mark for a restart was refused. -/
structure CompletesMarked (exchanges : List Exchange)
    (rest : Program (Except ReconcileFault Outcome)) : Prop where
  completes : Completes exchanges rest
  marked : ∀ e ∈ exchanges, ¬ e.RefusesMark

/-- A reload is pending only together with a restart. The last exchange tells where the two flags
are just being marked or cleared. -/
structure Flags.Paired (last : Option Exchange) (flags : Flags) : Prop where
  paired : Calm last → flags.isSet reloadPending = true → flags.isSet restartPending = true
  cleared : last = some ⟨.setFlag reloadPending false, .ok ()⟩ → flags.isSet reloadPending = false

namespace Flags.Paired

variable {s : Service} {r : Reconciliation} {files : ServiceFiles} {last : Option Exchange}
  {q : Request} {answer : Answer q} {name : String} {value : Bool} {flags : Flags}

/-- Only the exchange that unsets the flag for the reload says more than that the flags are
paired. -/
private theorem of_implies (other : q ≠ .setFlag reloadPending false)
    (implies : flags.isSet reloadPending = true → flags.isSet restartPending = true) :
    Paired (some ⟨q, answer⟩) flags := by
  constructor
  · intro _
    exact implies
  · intro ended
    exact absurd (congrArg Exchange.request (Option.some.inj ended)) other

/-- A flag that is not given its value leaves the flags paired. -/
private theorem refused {fault : FlagFault} (paired : Paired last flags) (calm : Calm last) :
    Paired (some ⟨.setFlag name value, .error fault⟩) flags := by
  constructor
  · intro _
    exact paired.paired calm
  · intro ended
    exact absurd (Option.some.inj ended) refused_ne_done

/-- Giving a flag a value keeps the flags paired, unless the mark for a restart is refused. -/
private theorem touch {answer : Answer (.setFlag name value)} (paired : Paired last flags)
    (touch : Touch s last name value)
    (marked : ¬ Exchange.RefusesMark ⟨.setFlag name value, answer⟩) :
    Paired (some ⟨.setFlag name value, answer⟩) (flags.after ⟨.setFlag name value, answer⟩) := by
  cases touch with
  | markReload calm =>
    cases answer with
    | ok done =>
      constructor
      · intro marking
        exact absurd rfl marking
      · intro ended
        have same : Request.setFlag reloadPending true = .setFlag reloadPending false :=
          congrArg Exchange.request (Option.some.inj ended)
        cases same
    | error fault => exact paired.refused calm
  | markRestart =>
    cases answer with
    | ok done =>
      apply of_implies (by decide)
      intro _
      simp only [Flags.after, Flags.isSet_insert, ↓reduceIte]
    | error fault => exact absurd ⟨fault, rfl⟩ marked
  | configure =>
    have calm : Calm (some ⟨.restart s.layout.serviceName, .ok ()⟩) := calm_of_ne (by simp)
    cases answer with
    | ok done =>
      apply of_implies (by decide)
      simpa only [Flags.after, Flags.isSet_insert, reloadPending_ne_configured.symm,
        restartPending_ne_configured.symm, ↓reduceIte] using paired.paired calm
    | error fault => exact paired.refused calm
  | clearReload =>
    cases answer with
    | ok done =>
      have unset : Flags.isSet (flags.insert reloadPending false) reloadPending = false := by
        simp only [Flags.isSet_insert, ↓reduceIte]
      constructor
      · intro _ set
        cases unset.symm.trans set
      · intro _
        exact unset
    | error fault => exact paired.refused (calm_of_ne (by decide))
  | clearRestart =>
    have unset := paired.cleared rfl
    cases answer with
    | ok done =>
      apply of_implies (by decide)
      intro set
      simp only [Flags.after, Flags.isSet_insert, restartPending_ne_reloadPending, ↓reduceIte,
        unset, Bool.false_eq_true] at set
    | error fault => exact paired.refused (calm_of_ne (by decide))

/-- An exchange of a call keeps the flags paired, unless it is a mark for a restart that is
refused. -/
theorem step (paired : Paired last flags) (turn : r.Turn last q)
    (marked : ¬ Exchange.RefusesMark ⟨q, answer⟩) :
    Paired (some ⟨q, answer⟩) (flags.after ⟨q, answer⟩) := by
  have quiet (calm : Calm last) (quiet : q.isQuiet = true) :
      Paired (some ⟨q, answer⟩) (flags.after ⟨q, answer⟩) := by
    rw [Flags.after_of_quiet quiet]
    refine of_implies ?_ (paired.paired calm)
    rintro rfl
    cases quiet
  cases turn with
  | quiet calm isQuiet => exact quiet calm isQuiet
  | converging due rendered turn =>
    cases turn with
    | quiet calm isQuiet => exact quiet calm isQuiet
    | touch touch => exact paired.touch touch marked
    | writeUnit calm => exact of_implies nofun (paired.paired calm)
    | writeSettings calm => exact of_implies nofun (paired.paired calm)
    | reload calm => exact of_implies nofun (paired.paired calm)
    | restart calm => exact of_implies nofun (paired.paired calm)

end Flags.Paired

namespace Surroundings

variable {s t u : Surroundings} {r : Reconciliation} {exchanges : List Exchange}
  {outcome : Outcome}

/-- A call that comes to its end and is not refused the mark for a restart leaves no reload pending
without a restart. -/
theorem paired_of_runs {rest : Program (Except ReconcileFault Outcome)}
    (runs : r.program.Runs r.service.layout t exchanges rest u)
    (went : CompletesMarked exchanges rest) (paired : t.flags.Paired none) :
    u.flags.Paired none := by
  obtain ⟨⟨result, rfl⟩, marked⟩ := went
  let kept (last : Option Exchange) (s : Surroundings) := s.flags.Paired last
  have ended : u.flags.Paired (exchanges.getLast?.or none) := by
    refine r.program_inTurn.runs_keep kept (¬ ·.RefusesMark) runs marked ?_ paired
    intro last q s answer t turn marked step paired
    simp only [kept, step.flags_eq]
    exact paired.step turn marked
  -- A call that is cut short right after the mark for a reload does not end calm; a complete one does.
  have calm := r.program_inTurn.of_runs runs
  exact ⟨fun _ => ended.paired calm, nofun⟩

theorem Maintained.paired (reached : s.Maintained CompletesMarked t)
    (start : s.flags.Paired none) : t.flags.Paired none := by
  induction reached with
  | start => exact start
  | call reached distinct runs went ih => exact paired_of_runs runs went ih
  | others disk reached ih => exact ih

/-- A call that is not skipped and ends well leaves no restart pending. A reload it leaves pending
only if it restarted nothing and found it so. -/
theorem pending_of_ok (distinct : r.service.layout.unitPath ≠ r.service.layout.configPath)
    (due : r.IsDue) (runs : r.program.Runs r.service.layout t exchanges (.done (.ok outcome)) u) :
    u.flags.isSet Flags.restartPending = false ∧
      (u.flags.isSet Flags.reloadPending = true → outcome = .unchanged ∧ u.flags = t.flags) := by
  have ends := Program.Ensures.of_complete distinct (r.program_ensures distinct) runs
  generalize here : Scene.mk (u.view r.service.layout) (Footprint.of exchanges) = c at ends
  cases ends with
  | polled poll => exact absurd poll due.notPoll
  | waiting notPoll noDatabase => cases noDatabase.symm.trans due.hasDatabase
  | converged due rendered ends =>
    cases outcome with
    | unchanged =>
      obtain ⟨notDue, same⟩ := ends
      have flags : u.flags = t.flags := congrArg (fun c : Scene => c.view.flags) (here.trans same)
      have unset := (View.mustRestart_eq_false_iff.mp notDue).2
      exact ⟨flags ▸ unset, fun _ => ⟨rfl, flags⟩⟩
    | applied =>
      obtain ⟨-, same⟩ := ends
      have flags : u.flags = _ := congrArg (fun c : Scene => c.view.flags) (here.trans same)
      constructor
      · exact flags ▸ View.isSet_restartPending_settled
      · intro set
        rw [flags, View.isSet_reloadPending_settled] at set
        cases set

/-- Where no flag was set at first and no mark for a restart was refused since, a call that is not
skipped and ends well leaves nothing pending, whatever else was refused. -/
theorem Maintained.nothing_pending (reached : s.Maintained CompletesMarked t)
    (unset : ∀ name, s.flags.isSet name = false)
    (distinct : r.service.layout.unitPath ≠ r.service.layout.configPath) (due : r.IsDue)
    (runs : r.program.Runs r.service.layout t exchanges (.done (.ok outcome)) u) :
    u.flags.isSet Flags.reloadPending = false ∧ u.flags.isSet Flags.restartPending = false := by
  have start : s.flags.Paired none := by
    constructor
    · intro _ set
      cases (unset _).symm.trans set
    · nofun
  have paired := reached.paired start
  obtain ⟨restart, reload⟩ := pending_of_ok distinct due runs
  refine ⟨?_, restart⟩
  cases set : u.flags.isSet Flags.reloadPending with
  | false => rfl
  | true =>
    obtain ⟨-, same⟩ := reload set
    have pending := paired.paired calm_none (same ▸ set)
    cases restart.symm.trans (same ▸ pending)

open Reconciliation in
/-- A first call that is refused nothing leaves nothing pending. -/
theorem nothing_pending_after_installation : ∃ t exchanges,
    installation.program.Runs installation.service.layout .bare exchanges (.done (.ok .applied)) t ∧
      t.flags.isSet Flags.reloadPending = false ∧ t.flags.isSet Flags.restartPending = false := by
  obtain ⟨t, runs, -⟩ := installation.runs_of_rehearsal installation_apart (Rehearsal.bare_shows {})
  rw [installation_applied] at runs
  have reached : bare.Maintained CompletesMarked bare := .start
  have unset (name : String) : bare.flags.isSet name = false := rfl
  exact ⟨t, _, runs, reached.nothing_pending unset installation_apart.distinct installation_isDue runs⟩

end Surroundings

namespace Service

variable {s : Service} {files : ServiceFiles} {l : Layout} {t : Surroundings}

/-- Where the unit is not as it shall be, the mark for a restart may be refused after the one for a
reload has been set. -/
theorem converge_mayRefuseMark {old other : ByteArray}
    (unit : t.disk.content? files.unit.path = some old) (stale : old ≠ files.unit.bytes)
    (settings : t.disk.content? files.settings.path = some other) (fault : FlagFault) :
    (s.converge files).MayEnd l t (.error (.flag fault))
      { t with flags := t.flags.insert Flags.reloadPending true } := by
  have unitStale : (some old != some files.unit.bytes) = true := by simpa using stale
  apply Action.MayEnd.bind (.mapFault (Artifact.isStale_mayEnd unit))
  apply Action.MayEnd.bind (.mapFault (Artifact.isStale_mayEnd settings))
  apply Action.MayEnd.bind_error
  rw [unitStale]
  exact .bind setFlag_mayEnd setFlag_mayEnd_refused

/-- Where both files are as they shall be and no restart is pending, nothing is changed, whether or
not a reload is pending. -/
theorem converge_mayFindUnchanged (unit : t.disk.content? files.unit.path = some files.unit.bytes)
    (settings : t.disk.content? files.settings.path = some files.settings.bytes)
    (unset : t.flags.isSet Flags.restartPending = false) :
    (s.converge files).MayEnd l t (.ok .unchanged) t := by
  apply Action.MayEnd.bind (.mapFault (Artifact.isStale_mayEnd unit))
  apply Action.MayEnd.bind (.mapFault (Artifact.isStale_mayEnd settings))
  rw [bne_self_eq_false, bne_self_eq_false]
  apply Action.MayEnd.bind .pure
  apply Action.MayEnd.bind (.discard (.mapFault (Artifact.apply_mayEnd unit)))
  apply Action.MayEnd.bind (.discard (.mapFault (Artifact.apply_mayEnd settings)))
  apply Action.MayEnd.bind getFlag_mayEnd
  rw [unset]
  exact .bind .log (.bind reportReady_mayEnd .pure)

end Service

namespace Reconciliation

variable {r : Reconciliation} {files : ServiceFiles} {l : Layout} {s t : Surroundings}
  {result : Except ReconcileFault Outcome}

/-- A call that is not skipped may come to what putting its files in place may come to. -/
theorem mayEnd_of_converge (due : r.IsDue) (rendered : r.rendering = .ok files)
    (converges : (r.service.converge files).MayEnd l s result t) :
    r.program.MayEnd l s result t := by
  have once : (r.service.reconcileOnce r.environment r.config r.trigger).MayEnd l s result t := by
    unfold Service.reconcileOnce
    rw [if_neg due.notPoll, if_pos due.hasDatabase]
    have same : r.service.render r.environment r.config = .ok files := rendered
    rw [same]
    exact converges
  have count (counter : Counter) (u : Surroundings) :
      (Program.request (.count counter)).MayEnd l u () u := by
    have step : u.Step l (.count counter) () u := rfl
    exact .request step
  have observed : (Program.request .observeDuration).MayEnd l t () t := by
    have step : t.Step l .observeDuration () t := rfl
    exact .request step
  have counted : (Service.countOutcome result).MayEnd l t () t := by
    cases result with
    | error fault => exact count .errors t
    | ok outcome =>
      cases outcome with
      | applied => exact count .applied t
      | unchanged => exact .done
  apply Program.MayEnd.bind (count .reconciliations s)
  apply Program.MayEnd.bind once
  apply Program.MayEnd.bind observed
  exact Program.MayEnd.bind counted .done

/-- A call that is refused the mark for a restart may leave a mark for a reload behind that a next
call, which finds everything as it shall be, does not take back. -/
theorem mayLeaveReload {other : Reconciliation} {others : ServiceFiles} {t : Surroundings}
    (due : r.IsDue) (rendered : r.rendering = .ok files) (otherDue : other.IsDue)
    (otherRendered : other.rendering = .ok others) (same : other.service.layout = r.service.layout)
    (differs : files.unit.bytes ≠ others.unit.bytes)
    (served : t.files r.service.layout = files.served)
    (unset : t.flags.isSet Flags.restartPending = false) :
    ∃ fault u, other.program.MayEnd other.service.layout t (.error fault) u ∧
      r.program.MayEnd r.service.layout u (.ok .unchanged) u ∧
      u.flags.isSet Flags.reloadPending = true := by
  have own := Service.lieAt_of_render rendered
  have otherOwn := same ▸ Service.lieAt_of_render otherRendered
  have unit : t.disk.content? r.service.layout.unitPath = some files.unit.bytes :=
    congrArg ServedFiles.unit served
  have settings : t.disk.content? r.service.layout.configPath = some files.settings.bytes :=
    congrArg ServedFiles.settings served
  have refused := Service.converge_mayRefuseMark (l := other.service.layout) (s := other.service)
    (otherOwn.unit ▸ unit) differs (otherOwn.settings ▸ settings) .unavailable
  let u : Surroundings := { t with flags := t.flags.insert Flags.reloadPending true }
  have stillUnset : u.flags.isSet Flags.restartPending = false := by
    simpa [u, Flags.isSet_insert, Flags.restartPending_ne_reloadPending.symm] using unset
  have unchanged : (r.service.converge files).MayEnd r.service.layout u (.ok .unchanged) u :=
    Service.converge_mayFindUnchanged (own.unit ▸ unit) (own.settings ▸ settings) stillUnset
  refine ⟨.flag .unavailable, u, mayEnd_of_converge otherDue otherRendered refused,
    mayEnd_of_converge due rendered unchanged, ?_⟩
  simp only [u, Flags.isSet_insert, ↓reduceIte]

/-- The same service in another environment, so that its unit is another one. -/
def revision : Reconciliation :=
  { installation with environment := .ofList [("MODE", "cluster")] }

theorem revision_isDue : revision.IsDue := by
  constructor <;> decide

theorem revision_rendering {files : ServiceFiles} (rendered : installation.rendering = .ok files) :
    ∃ others, revision.rendering = .ok others ∧ files.unit.bytes ≠ others.unit.bytes := by
  have units : revision.rendering.toOption.isSome = true ∧
      installation.rendering.toOption.map (·.unit.bytes) ≠
        revision.rendering.toOption.map (·.unit.bytes) := by
    decide +kernel
  cases revised : revision.rendering with
  | error fault =>
    rw [revised] at units
    cases units.1
  | ok others =>
    rw [rendered, revised] at units
    exact ⟨others, rfl, fun same => units.2 (congrArg some same)⟩

end Reconciliation

namespace Surroundings

open Reconciliation in
/-- A reload may be left pending by a call that ends well, where an earlier one was refused the mark
for a restart: installed, revised in vain and then asked for as it was installed, the service is
found unchanged, but the mark for the reload is still there. -/
theorem reload_left_pending : ¬ ∀ (s t u : Surroundings) (r : Reconciliation)
    (exchanges : List Exchange) (outcome : Outcome), (∀ name, s.flags.isSet name = false) →
      s.Maintained Completes t → r.service.layout.unitPath ≠ r.service.layout.configPath →
      r.IsDue → r.program.Runs r.service.layout t exchanges (.done (.ok outcome)) u →
      u.flags.isSet Flags.reloadPending = false ∧ u.flags.isSet Flags.restartPending = false := by
  intro always
  have distinct := installation_apart.distinct
  obtain ⟨files, rendered⟩ := installation_rendering
  obtain ⟨t, first, -⟩ := installation.runs_of_rehearsal installation_apart
    (Rehearsal.bare_shows {})
  rw [installation_applied] at first
  have ends := Program.Ensures.of_complete distinct (installation.program_ensures distinct) first
  obtain ⟨-, here⟩ := ends.of_due installation_isDue rendered
  have settled : t.view installation.service.layout = _ := congrArg Scene.view here
  have served : t.files installation.service.layout = files.served := congrArg View.files settled
  have unset : t.flags.isSet Flags.restartPending = false := by
    have flags : t.flags = _ := congrArg View.flags settled
    exact flags ▸ View.isSet_restartPending_settled
  obtain ⟨others, revised, differs⟩ := revision_rendering rendered
  obtain ⟨fault, u, ⟨second, refused⟩, ⟨third, unchanged⟩, set⟩ := mayLeaveReload
    installation_isDue rendered revision_isDue revised rfl differs served unset
  have reached : bare.Maintained Completes u :=
    .call (r := revision) (.call .start distinct first ⟨_, rfl⟩) distinct refused ⟨_, rfl⟩
  have unset := always bare u u installation third .unchanged (fun _ => rfl) reached distinct
    installation_isDue unchanged
  cases set.symm.trans unset.1

end Surroundings

end Upkeep
