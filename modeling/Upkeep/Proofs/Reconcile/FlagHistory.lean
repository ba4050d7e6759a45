import Upkeep.Proofs.Reconcile.Order

/-! Flags over histories of calls. The flag that says that the service is configured is never
unset, and it is set only right after a restart that found both files as rendered. Of all other
flags only the two that say what is pending are ever touched. -/
namespace Upkeep

namespace Program.Runs

variable {α : Type} {l : Layout} {p q : Program α} {s t : Surroundings} {exchanges : List Exchange}

/-- A run can be taken apart anywhere. -/
theorem of_append {first later : List Exchange} (runs : p.Runs l s (first ++ later) q t) :
    ∃ rest m, p.Runs l s first rest m ∧ rest.Runs l m later q t := by
  induction first generalizing p s with
  | nil => exact ⟨p, s, .here p s, runs⟩
  | cons e first ih =>
    cases runs with
    | ask step more =>
      obtain ⟨rest, m, before, after⟩ := ih more
      exact ⟨rest, m, .ask step before, after⟩

/-- What does not hold at the start of a run but at its end comes to hold in one of its steps. -/
theorem exists_step (holds : Surroundings → Prop) (runs : p.Runs l s exchanges q t)
    (before : ¬ holds s) (after : holds t) :
    ∃ first r, ∃ answer : Answer r, ∃ later next m n,
      exchanges = first ++ ⟨r, answer⟩ :: later ∧ p.Runs l s first (.ask r next) m ∧
        m.Step l r answer n ∧ ¬ holds m ∧ holds n := by
  induction runs with
  | here p s => exact absurd after before
  | @ask r next answer s m t exchanges rest step more ih =>
    by_cases now : holds m
    · exact ⟨[], r, answer, exchanges, next, s, m, rfl, .here _ s, step, before, now⟩
    · obtain ⟨first, q, told, later, rest, u, v, same, runs, crossing, unset, set⟩ := ih now after
      refine ⟨_ :: first, q, told, later, rest, u, v, ?_, .ask step runs, crossing, unset, set⟩
      rw [same, List.cons_append]

end Program.Runs

namespace Flags

/-- The flags after an exchange. -/
def after (flags : Flags) : Exchange → Flags
  | ⟨.setFlag name value, .ok ()⟩ => flags.insert name value
  | _ => flags

variable {flags : Flags}

theorem after_of_quiet {r : Request} {answer : Answer r} (quiet : r.isQuiet = true) :
    flags.after ⟨r, answer⟩ = flags := by
  cases r <;> first | rfl | cases quiet

/-- An exchange leaves the flags as they are, unless it gives a flag a value. -/
theorem after_eq (flags : Flags) (e : Exchange) :
    flags.after e = flags ∨ ∃ name value,
      e = ⟨.setFlag name value, .ok ()⟩ ∧ flags.after e = flags.insert name value := by
  unfold after
  split
  · exact .inr ⟨_, _, rfl, rfl⟩
  · exact .inl rfl

end Flags

/-- Only exchanges that give flags values change the flags. -/
theorem Surroundings.Step.flags_eq {l : Layout} {s t : Surroundings} {r : Request}
    {answer : Answer r} (step : s.Step l r answer t) : t.flags = s.flags.after ⟨r, answer⟩ := by
  cases r with
  | setFlag name value =>
    cases answer with
    | ok done =>
      obtain ⟨disk, -, rfl⟩ := step
      rfl
    | error fault =>
      obtain ⟨disk, -, rfl⟩ := step
      rfl
  | write path bytes mode =>
    cases answer with
    | ok done =>
      obtain ⟨disk, -, rfl⟩ := step
      rfl
    | error fault =>
      obtain ⟨disk, -, rfl⟩ := step
      rfl
  | reloadUnits => cases answer <;> (cases step; rfl)
  | restart unit => cases answer <;> (cases step; rfl)
  | read path => exact congrArg flags (step.eq_of_quiet rfl)
  | getFlag name => exact congrArg flags (step.eq_of_quiet rfl)
  | report state message => exact congrArg flags (step.eq_of_quiet rfl)
  | log event => exact congrArg flags (step.eq_of_quiet rfl)
  | count counter => exact congrArg flags (step.eq_of_quiet rfl)
  | observeDuration => exact congrArg flags (step.eq_of_quiet rfl)

/-- The flags that a reconciliation may touch. -/
def Flags.own : List String :=
  [configured, reloadPending, restartPending]

namespace Touch

variable {s : Service} {last : Option Exchange} {name : String} {value : Bool}

/-- Only flags of its own are touched by a reconciliation. -/
theorem own (touch : Touch s last name value) : name ∈ Flags.own := by
  cases touch <;> decide

/-- That the service is configured is never taken back. -/
theorem sets_configured (touch : Touch s last name value) (named : name = Flags.configured) :
    value = true := by
  cases touch with
  | markReload calm => rfl
  | markRestart => rfl
  | configure => rfl
  | clearReload => exact absurd named (by decide)
  | clearRestart => exact absurd named (by decide)

/-- The service counts as configured right after a restart that went well. -/
theorem last_of_configured (touch : Touch s last name value) (named : name = Flags.configured) :
    last = some ⟨.restart s.layout.serviceName, .ok ()⟩ := by
  cases touch with
  | configure => rfl
  | markReload calm => exact absurd named (by decide)
  | markRestart => exact absurd named (by decide)
  | clearReload => exact absurd named (by decide)
  | clearRestart => exact absurd named (by decide)

end Touch

namespace Reconciliation

variable {r : Reconciliation} {last : Option Exchange} {name : String} {value : Bool}
  {s t : Surroundings} {exchanges : List Exchange}
  {rest : Program (Except ReconcileFault Outcome)}

/-- A service that is configured stays so, however a call goes. -/
theorem configured_kept (runs : r.program.Runs r.service.layout s exchanges rest t)
    (set : s.flags.isSet Flags.configured = true) : t.flags.isSet Flags.configured = true := by
  let kept (_ : Option Exchange) (s : Surroundings) := s.flags.isSet Flags.configured = true
  let fine (_ : Exchange) := True
  refine r.program_inTurn.runs_keep kept fine runs (fun _ _ => trivial) ?_ set
  intro last q s answer t turn _ step set
  simp only [kept, step.flags_eq]
  rcases s.flags.after_eq ⟨q, answer⟩ with same | ⟨name, value, asked, flags⟩
  · rw [same]
    exact set
  · obtain rfl : q = .setFlag name value := congrArg Exchange.request asked
    rw [flags, Flags.isSet_insert]
    split
    · rename_i named
      exact turn.touches.sets_configured named
    · exact set

/-- Flags that are not the reconciler's keep their values, however a call goes. -/
theorem other_flags_kept (runs : r.program.Runs r.service.layout s exchanges rest t)
    (other : name ∉ Flags.own) : t.flags.get? name = s.flags.get? name := by
  let kept (_ : Option Exchange) (u : Surroundings) := u.flags.get? name = s.flags.get? name
  let fine (_ : Exchange) := True
  refine r.program_inTurn.runs_keep kept fine runs (fun _ _ => trivial) ?_ rfl
  intro last q u answer v turn _ step same
  simp only [kept, step.flags_eq]
  rcases u.flags.after_eq ⟨q, answer⟩ with flags | ⟨touched, value, asked, flags⟩
  · rw [flags]
    exact same
  · obtain rfl : q = .setFlag touched value := congrArg Exchange.request asked
    have apart : touched ≠ name := by
      rintro rfl
      exact other turn.touches.own
    rw [flags, SortedMap.get?_insert, if_neg apart]
    exact same

/-- Some exchanges lead through a restart that went well, with both files as rendered, and right
after it the service counts as configured. -/
def ConfiguresAfterRestart (r : Reconciliation) (s : Surroundings) (exchanges : List Exchange) :
    Prop :=
  ∃ files before after next m, r.rendering = .ok files ∧
    exchanges = before ++ ⟨.restart r.service.layout.serviceName, .ok ()⟩ ::
      ⟨.setFlag Flags.configured true, .ok ()⟩ :: after ∧
    r.program.Runs r.service.layout s before (.ask (.restart r.service.layout.serviceName) next) m ∧
    m.files r.service.layout = files.served

/-- A service that was not configured comes to be so by a restart with both files as rendered. -/
theorem configures_after_restart
    (distinct : r.service.layout.unitPath ≠ r.service.layout.configPath)
    (runs : r.program.Runs r.service.layout s exchanges rest t)
    (unset : s.flags.isSet Flags.configured = false)
    (set : t.flags.isSet Flags.configured = true) : r.ConfiguresAfterRestart s exchanges := by
  let holds (u : Surroundings) := u.flags.isSet Flags.configured = true
  have before : ¬ holds s := by simp [holds, unset]
  obtain ⟨first, q, answer, later, next, m, n, rfl, first_runs, step, unset, set⟩ :=
    runs.exists_step holds before set
  simp only [holds, step.flags_eq] at set
  rcases m.flags.after_eq ⟨q, answer⟩ with same | ⟨name, value, asked, flags⟩
  · rw [same] at set
    exact absurd set unset
  · rw [flags, Flags.isSet_insert] at set
    split at set
    · rename_i same
      subst same set
      obtain ⟨rfl, answered⟩ := Exchange.mk.inj asked
      -- What was asked came in turn, so it tells which exchange came right before it.
      have turn := (r.program_inTurn.of_runs first_runs).1
      have last := turn.touches.last_of_configured rfl
      rw [Option.or_none] at last
      obtain ⟨before, rfl⟩ := List.getLast?_eq_some_iff.mp last
      obtain ⟨asking, u, toRestart, restart⟩ := first_runs.of_append
      cases restart with
      | ask restarted more =>
        obtain ⟨files, rendered, -, view⟩ := r.restart_asked distinct toRestart
        refine ⟨files, before, later, _, u, rendered, ?_, toRestart, congrArg View.files view⟩
        rw [asked, List.append_assoc]
        rfl
    · exact absurd set unset

/-- A call that restarts the service leaves it configured. -/
theorem configured_of_applied
    (distinct : r.service.layout.unitPath ≠ r.service.layout.configPath)
    (runs : r.program.Runs r.service.layout s exchanges (.done (.ok .applied)) t) :
    t.flags.isSet Flags.configured = true := by
  have ends := Program.Ensures.of_complete distinct (r.program_ensures distinct) runs
  cases ends with
  | converged due rendered ends =>
    obtain ⟨-, same⟩ := ends
    have view : t.view r.service.layout = _ := congrArg Scene.view same
    have flags : t.flags = _ := congrArg View.flags view
    exact flags ▸ View.isSet_configured_settled

end Reconciliation

namespace Surroundings

/-- What surroundings can become when calls that go a certain way follow one another, each for a
service of its own, while others change files as they like. -/
inductive Maintained (goes : List Exchange → Program (Except ReconcileFault Outcome) → Prop)
    (s : Surroundings) : Surroundings → Prop where
  | start : Maintained goes s s
  | call {t u : Surroundings} {r : Reconciliation} {exchanges : List Exchange}
      {rest : Program (Except ReconcileFault Outcome)} (reached : Maintained goes s t)
      (distinct : r.service.layout.unitPath ≠ r.service.layout.configPath)
      (runs : r.program.Runs r.service.layout t exchanges rest u) (went : goes exchanges rest) :
      Maintained goes s u
  | others {t : Surroundings} (disk : Disk) (reached : Maintained goes s t) :
      Maintained goes s { t with disk }

variable {goes : List Exchange → Program (Except ReconcileFault Outcome) → Prop}
  {s t : Surroundings} {name : String}

theorem Maintained.configured_kept (reached : s.Maintained goes t)
    (set : s.flags.isSet Flags.configured = true) : t.flags.isSet Flags.configured = true := by
  induction reached with
  | start => exact set
  | call reached distinct runs went ih => exact Reconciliation.configured_kept runs ih
  | others disk reached ih => exact ih

theorem Maintained.other_flags_kept (reached : s.Maintained goes t) (other : name ∉ Flags.own) :
    t.flags.get? name = s.flags.get? name := by
  induction reached with
  | start => rfl
  | call reached distinct runs went ih =>
    exact (Reconciliation.other_flags_kept runs other).trans ih
  | others disk reached ih => exact ih

end Surroundings

end Upkeep
