import Upkeep.Proofs.Reconcile.Rehearsals
import Upkeep.Proofs.Reconcile.Tally
import Upkeep.Proofs.World.UnitNames

/-! The metrics account for every call. Calls follow each other in one process, where the service
manager may be another program in another world for each command, and where all else may be
answered in any way. What is done in these calls is told by the requests that were answered; the
metrics are then told by the results of the calls and by what was done. -/
namespace Upkeep

/-- What a call gets done beside its result. -/
inductive Deed where
  /-- A file is replaced. -/
  | replaced (path : Path)
  /-- The service manager is given a command, by its label. Its program cannot be started, or it
  comes to an end. -/
  | commanded (label : String) (ending : Except Fault Exit)

namespace Deed

/-- Whether a file is replaced. -/
def replaces : Deed → Bool
  | replaced _ => true
  | commanded _ _ => false

/-- Whether a command of a label is given. -/
def commands (label : String) : Deed → Bool
  | replaced _ => false
  | commanded other _ => other == label

/-- Whether a command of a label exits successfully. -/
def succeeds (label : String) : Deed → Bool
  | commanded other (.ok exit) => other == label && exit.isSuccess
  | _ => false

/-- What is counted for it as it happens. -/
def counters : Deed → List Counter
  | replaced _ => []
  | commanded label (.ok exit) =>
    .command label :: if exit.isSuccess then [] else [.commandError label]
  | commanded label (.error _) => [.command label, .commandError label]

theorem succeeds_of_ne {label other : String} {ending : Except Fault Exit} (ne : other ≠ label) :
    (commanded other ending).succeeds label = false := by
  cases ending with
  | error fault => rfl
  | ok exit => simp [succeeds, ne]

end Deed

/-- How a request may be answered among some metrics, what is done for it and what the metrics are
then. -/
inductive Metrics.Step (m : Metrics) : (r : Request) → Answer r → List Deed → Metrics → Prop where
  | count (counter : Counter) : Step m (.count counter) () [] (m.count counter)
  | observe (seconds : Binary64) : Step m .observeDuration () [] (m.observe seconds)
  | read (path : Path) (answer : Answer (.read path)) : Step m (.read path) answer [] m
  | written (path : Path) (bytes : ByteArray) (mode : Nat) :
      Step m (.write path bytes mode) (.ok ()) [.replaced path] m
  | notWritten (path : Path) (bytes : ByteArray) (mode : Nat) (fault : Fault) :
      Step m (.write path bytes mode) (.error fault) [] m
  | getFlag (name : String) (answer : Answer (.getFlag name)) : Step m (.getFlag name) answer [] m
  | setFlag (name : String) (value : Bool) (answer : Answer (.setFlag name value)) :
      Step m (.setFlag name value) answer [] m
  | report (state : WorkloadState) (message : String) (answer : Answer (.report state message)) :
      Step m (.report state message) answer [] m
  | log (event : Log.Event) : Step m (.log event) () [] m
  | reloadUnits (manager : Systemctl) (span : Option Log.Span) (w : World) (same : w.metrics = m) :
      Step m .reloadUnits (manager.reloadUnits span w).2
        [.commanded "daemon-reload" ((w.start manager.program ["daemon-reload"]).2.map Tool.exit)]
        (manager.reloadUnits span w).1.metrics
  | restart (manager : Systemctl) (span : Option Log.Span) (unit : String) (w : World)
      (same : w.metrics = m) (named : isUnitName unit = true) :
      Step m (.restart unit) (manager.restart span unit w).2
        [.commanded "restart" ((w.start manager.program ["restart", unit]).2.map Tool.exit)]
        (manager.restart span unit w).1.metrics
  | refused (manager : Systemctl) (span : Option Log.Span) (unit : String) (w : World)
      (same : w.metrics = m) (unnamed : isUnitName unit = false) :
      Step m (.restart unit) (manager.restart span unit w).2 []
        (manager.restart span unit w).1.metrics

/-- A program among some metrics: what is done, its result and what the metrics are then. -/
inductive Program.Metered {α : Type} : Program α → Metrics → List Deed → α → Metrics → Prop where
  | done (result : α) (m : Metrics) : Metered (.done result) m [] result m
  | ask {r : Request} {next : Answer r → Program α} {answer : Answer r} {m n k : Metrics}
      {deeds more : List Deed} {result : α} (step : m.Step r answer deeds n)
      (rest : (next answer).Metered n more result k) :
      Metered (.ask r next) m (deeds ++ more) result k

/-- A call that was made, and its result. -/
structure Settled where
  call : Reconciliation
  result : Except ReconcileFault Outcome

namespace Settled

/-- Whether the call applied something. -/
def isApplied (s : Settled) : Bool :=
  match s.result with
  | .ok .applied => true
  | _ => false

/-- Whether the call found nothing to apply. -/
def isUnchanged (s : Settled) : Bool :=
  match s.result with
  | .ok .unchanged => true
  | _ => false

/-- Whether the call failed. -/
def isError (s : Settled) : Bool :=
  match s.result with
  | .error _ => true
  | .ok _ => false

end Settled

/-- The calls in one process so far, what was done in them and what the metrics are. -/
inductive Session : List Settled → List Deed → Metrics → Prop where
  | opened : Session [] [] ∅
  | call {calls : List Settled} {deeds more : List Deed} {m n : Metrics} {r : Reconciliation}
      {result : Except ReconcileFault Outcome} (before : Session calls deeds m)
      (metered : r.program.Metered m more result n) :
      Session (calls ++ [⟨r, result⟩]) (deeds ++ more) n

theorem World.start_metrics (w : World) (p : Path) (arguments : List String) :
    (w.start p arguments).1.metrics = w.metrics := by
  rcases w.start_eq p arguments with same | ⟨path, recorded⟩
  · rw [same]
  · rw [recorded]

/-- Nothing is counted for a report. -/
theorem Reporter.report_metrics (r : Reporter) (span : Option Log.Span) (state : WorkloadState)
    (message : String) (w : World) : (r.report span state message w).1.metrics = w.metrics := by
  cases r with
  | log => rfl
  | tool path =>
    have started : ((w.logEvent span (.settingStatus path state message)).start path
        [state.name, message]).1.metrics = w.metrics :=
      World.start_metrics (w.logEvent span _) path [state.name, message]
    simp only [report]
    generalize World.start _ path [state.name, message] = outcome at started ⊢
    obtain ⟨v, fault | run⟩ := outcome
    · exact started
    · simp only
      split <;> exact started

namespace Systemctl

variable {s : Systemctl} {span : Option Log.Span} {unit : String} {w : World}

/-- A command is counted as it goes. -/
theorem run_counted (s : Systemctl) (span : Option Log.Span) (label : String)
    (arguments : List String) (w : World) (c : Counter) :
    (s.run span label arguments w).1.metrics.counted c = w.metrics.counted c +
      (Deed.commanded label ((w.start s.program arguments).2.map Tool.exit)).counters.count c := by
  let begun := (w.logEvent span (.runningCommand
    (" ".intercalate (s.program.text :: arguments)))).count (.command label)
  have ending : (begun.start s.program arguments).2 = (w.start s.program arguments).2 := by
    apply World.start_congr <;> rfl
  have metrics : (begun.start s.program arguments).1.metrics = w.metrics.count (.command label) :=
    World.start_metrics begun s.program arguments
  rw [← ending]
  simp only [run]
  simp only [begun] at metrics ⊢
  generalize World.start _ s.program arguments = outcome at metrics ⊢
  obtain ⟨v, fault | tool⟩ := outcome
  · replace metrics : v.metrics = w.metrics.count (.command label) := metrics
    simp only [World.count, metrics, Metrics.counted_count, Except.map, Deed.counters,
      List.count_cons, List.count_nil, beq_iff_eq]
    omega
  · replace metrics : v.metrics = w.metrics.count (.command label) := metrics
    simp only [Except.map, Deed.counters]
    cases tool.exit.isSuccess with
    | true => simp [metrics, Metrics.counted_count, List.count_cons]
    | false =>
      simp [World.count, metrics, Metrics.counted_count, List.count_cons]
      omega

/-- A command goes well just if its program exits successfully. -/
theorem run_ok_iff (s : Systemctl) (span : Option Log.Span) (label : String)
    (arguments : List String) (w : World) :
    (s.run span label arguments w).2 = .ok () ↔ Deed.succeeds label
      (.commanded label ((w.start s.program arguments).2.map Tool.exit)) = true := by
  have ending : (((w.logEvent span (.runningCommand
      (" ".intercalate (s.program.text :: arguments)))).count (.command label)).start s.program
        arguments).2 = (w.start s.program arguments).2 := by
    apply World.start_congr <;> rfl
  rw [← ending]
  simp only [run]
  generalize World.start _ s.program arguments = outcome
  obtain ⟨v, fault | tool⟩ := outcome
  · simp [Except.map, Deed.succeeds]
  · cases success : tool.exit.isSuccess <;> simp [Except.map, Deed.succeeds, success]

theorem reloadUnits_counted (s : Systemctl) (span : Option Log.Span) (w : World) (c : Counter) :
    (s.reloadUnits span w).1.metrics.counted c = w.metrics.counted c +
      (Deed.commanded "daemon-reload"
        ((w.start s.program ["daemon-reload"]).2.map Tool.exit)).counters.count c := by
  rw [← s.run_counted span]
  unfold reloadUnits
  generalize s.run span "daemon-reload" ["daemon-reload"] w = outcome
  obtain ⟨v, fault | done⟩ := outcome <;> rfl

theorem restart_counted (s : Systemctl) (span : Option Log.Span) (w : World)
    (named : isUnitName unit = true) (c : Counter) :
    (s.restart span unit w).1.metrics.counted c = w.metrics.counted c +
      (Deed.commanded "restart"
        ((w.start s.program ["restart", unit]).2.map Tool.exit)).counters.count c := by
  rw [← s.run_counted span]
  unfold restart
  rw [if_pos named]
  generalize s.run span "restart" ["restart", unit] w = outcome
  obtain ⟨v, fault | done⟩ := outcome <;> rfl

theorem restart_ok_iff (s : Systemctl) (span : Option Log.Span) (w : World)
    (named : isUnitName unit = true) :
    (s.restart span unit w).2 = .ok () ↔ Deed.succeeds "restart"
      (.commanded "restart" ((w.start s.program ["restart", unit]).2.map Tool.exit)) = true := by
  rw [← s.run_ok_iff span]
  unfold restart
  rw [if_pos named]
  generalize s.run span "restart" ["restart", unit] w = outcome
  obtain ⟨v, fault | done⟩ := outcome <;> simp

/-- A restart of a unit that cannot be is refused at once. -/
theorem restart_eq_of_not_isUnitName (s : Systemctl) (span : Option Log.Span)
    (unnamed : isUnitName unit = false) (w : World) :
    s.restart span unit w = (w, .error (.invalidUnit unit)) := by
  unfold restart
  rw [if_neg (Bool.eq_false_iff.mp unnamed)]

end Systemctl

/-- What the metrics have gained is what was asked to be counted and what was counted for the deeds. -/
structure Balanced (t u : Tally) (m n : Metrics) (deeds : List Deed) : Prop where
  counted : ∀ c, n.counted c + t.counted.count c =
    m.counted c + u.counted.count c + (deeds.flatMap Deed.counters).count c
  written : u.written = t.written + deeds.countP Deed.replaces
  restarted : u.restarted = t.restarted + deeds.countP (Deed.succeeds "restart")

namespace Balanced

variable {t u v : Tally} {m n k : Metrics} {deeds more : List Deed}

theorem idle (t : Tally) (m : Metrics) : Balanced t t m m [] :=
  ⟨fun _ => rfl, rfl, rfl⟩

theorem append (first : Balanced t u m n deeds) (second : Balanced u v n k more) :
    Balanced t v m k (deeds ++ more) := by
  constructor
  · intro c
    have before := first.counted c
    have after := second.counted c
    rw [List.flatMap_append, List.count_append]
    omega
  · rw [List.countP_append, second.written, first.written, Nat.add_assoc]
  · rw [List.countP_append, second.restarted, first.restarted, Nat.add_assoc]

/-- What was not asked to be counted is counted for a deed. -/
theorem deed {deed : Deed} (counted : ∀ c, n.counted c = m.counted c + deed.counters.count c)
    (written : u.written = t.written + if deed.replaces then 1 else 0)
    (restarted : u.restarted = t.restarted + if deed.succeeds "restart" then 1 else 0)
    (same : u.counted = t.counted) : Balanced t u m n [deed] := by
  constructor
  · intro c
    rw [same, counted c, List.flatMap_singleton]
    omega
  · rw [written, List.countP_singleton]
  · rw [restarted, List.countP_singleton]

end Balanced

/-- Each answer keeps the balance. -/
theorem Metrics.Step.balanced {m n : Metrics} {r : Request} {answer : Answer r} {deeds : List Deed}
    (step : m.Step r answer deeds n) (t : Tally) : Balanced t (t.add r answer) m n deeds := by
  cases step with
  | count counter =>
    refine ⟨fun c => ?_, rfl, rfl⟩
    simp [Metrics.counted_count, Tally.add, List.count_append, List.count_cons]
    omega
  | observe seconds => exact ⟨fun c => by cases c <;> rfl, rfl, rfl⟩
  | read path answer => exact .idle t m
  | written path bytes mode => exact .deed (fun _ => rfl) rfl rfl rfl
  | notWritten path bytes mode fault => exact .idle t m
  | getFlag name answer => exact .idle t m
  | setFlag name value answer => exact .idle t m
  | report state message answer => exact .idle t m
  | log event => exact .idle t m
  | reloadUnits manager span w same =>
    subst same
    refine .deed (manager.reloadUnits_counted span w) rfl ?_ rfl
    rw [Deed.succeeds_of_ne (by decide)]
    rfl
  | restart manager span unit w same named =>
    subst same
    have ok := manager.restart_ok_iff span w named
    have counted := manager.restart_counted span w named
    generalize (manager.restart span unit w).2 = answer at ok ⊢
    cases answer with
    | ok done => exact .deed counted rfl (by rw [ok.mp rfl]; rfl) rfl
    | error fault =>
      have failed := Bool.eq_false_iff.mpr fun success => by cases ok.mpr success
      exact .deed counted rfl (by rw [failed]; rfl) rfl
  | refused manager span unit w same unnamed =>
    subst same
    rw [manager.restart_eq_of_not_isUnitName span unnamed w]
    exact .idle t w.metrics

/-- The balance of a program is that of its answers. -/
theorem Program.Tallies.of_metered {α : Type} {post : α → Tally → Prop} {p : Program α} {t : Tally}
    {m n : Metrics} {deeds : List Deed} {result : α} (tallies : p.Tallies post t)
    (metered : p.Metered m deeds result n) : ∃ u, post result u ∧ Balanced t u m n deeds := by
  induction metered generalizing t with
  | done result m => exact ⟨t, tallies, .idle t m⟩
  | ask step rest ih =>
    obtain ⟨u, ends, later⟩ := ih (tallies _)
    exact ⟨u, ends, (step.balanced t).append later⟩

namespace Deed

variable {label : String} {c : Counter} {deeds : List Deed}

/-- Nothing but commands and their errors is counted for deeds. -/
theorem count_counters_of_plain (deeds : List Deed) (noCommand : ∀ label, c ≠ .command label)
    (noError : ∀ label, c ≠ .commandError label) : (deeds.flatMap counters).count c = 0 := by
  rw [List.count_eq_zero]
  intro member
  obtain ⟨deed, -, counted⟩ := List.mem_flatMap.mp member
  unfold counters at counted
  split at counted
  · cases counted
  · split at counted <;> simp_all
  · simp_all

/-- Every command is counted under its label. -/
theorem count_command (label : String) (deeds : List Deed) :
    (deeds.flatMap counters).count (.command label) = deeds.countP (commands label) := by
  have each (deed : Deed) :
      deed.counters.count (.command label) = if deed.commands label then 1 else 0 := by
    match deed with
    | replaced path => rfl
    | commanded other (.error fault) => simp [counters, commands, List.count_cons]
    | commanded other (.ok exit) =>
      cases success : exit.isSuccess <;> simp [counters, commands, List.count_cons, success]
  induction deeds with
  | nil => rfl
  | cons deed rest ih =>
    rw [List.flatMap_cons, List.count_append, ih, each, List.countP_cons, Nat.add_comm]

/-- Every command but those that exit successfully is counted as an error of its label. -/
theorem count_commandError (label : String) (deeds : List Deed) :
    (deeds.flatMap counters).count (.commandError label) + deeds.countP (succeeds label) =
      deeds.countP (commands label) := by
  have each (deed : Deed) : deed.counters.count (.commandError label) +
      (if deed.succeeds label then 1 else 0) = if deed.commands label then 1 else 0 := by
    match deed with
    | replaced path => rfl
    | commanded other (.error fault) => simp [counters, commands, succeeds, List.count_cons]
    | commanded other (.ok exit) =>
      cases success : exit.isSuccess <;>
        simp [counters, commands, succeeds, List.count_cons, success]
  induction deeds with
  | nil => rfl
  | cons deed rest ih =>
    have first := each deed
    rw [List.flatMap_cons, List.count_append, List.countP_cons, List.countP_cons]
    omega

end Deed

/-- How often a call asks for each count. -/
theorem Settled.count_counters (s : Settled) (written : Nat) :
    let asked := s.call.counters written s.result
    asked.count .reconciliations = 1 ∧ asked.count .skipped = (if s.call.isSkipped then 1 else 0) ∧
      asked.count .artifactsWritten = written ∧
      asked.count .applied = (if s.isApplied then 1 else 0) ∧
      asked.count .errors = (if s.isError then 1 else 0) ∧
      ∀ label, asked.count (.command label) = 0 ∧ asked.count (.commandError label) = 0 := by
  obtain ⟨call, result⟩ := s
  unfold Reconciliation.counters isApplied isError
  cases call.isSkipped <;> match result with
    | .error fault => simp [List.count_append, List.count_replicate]
    | .ok .unchanged => simp [List.count_replicate]
    | .ok .applied => simp [List.count_append, List.count_replicate]

/-- The metrics as the calls and what was done in them account for them. -/
structure Accounted (calls : List Settled) (deeds : List Deed) (m : Metrics) : Prop where
  reconciliations : m.reconciliations = calls.length
  applied : m.applied = calls.countP Settled.isApplied
  errors : m.errors = calls.countP Settled.isError
  skipped : m.skipped = calls.countP fun s => s.call.isSkipped
  written : m.artifactsWritten = deeds.countP Deed.replaces
  commands : ∀ label, m.counted (.command label) = deeds.countP (Deed.commands label)
  succeeded : ∀ label, m.counted (.commandError label) + deeds.countP (Deed.succeeds label) =
    m.counted (.command label)
  restarted : m.applied ≤ deeds.countP (Deed.succeeds "restart")

namespace Accounted

variable {calls : List Settled} {deeds more : List Deed} {m n : Metrics} {r : Reconciliation}
  {result : Except ReconcileFault Outcome}

theorem opened : Accounted [] [] ∅ :=
  ⟨rfl, rfl, rfl, rfl, rfl, fun _ => rfl, fun _ => rfl, Nat.le_refl 0⟩

/-- One more call keeps the account. -/
theorem call (before : Accounted calls deeds m) (metered : r.program.Metered m more result n) :
    Accounted (calls ++ [⟨r, result⟩]) (deeds ++ more) n := by
  obtain ⟨u, ⟨counted, restarted⟩, balanced⟩ := r.program_tallies.of_metered metered
  have gained (c : Counter) : n.counted c =
      m.counted c + (r.counters u.written result).count c + (more.flatMap Deed.counters).count c := by
    rw [← counted]
    exact balanced.counted c
  have plain (c : Counter) (noCommand : ∀ label, c ≠ .command label)
      (noError : ∀ label, c ≠ .commandError label) :
      n.counted c = m.counted c + (r.counters u.written result).count c := by
    rw [gained, Deed.count_counters_of_plain more noCommand noError, Nat.add_zero]
  have written : u.written = more.countP Deed.replaces := by
    rw [balanced.written, Nat.zero_add]
  have restarts : u.restarted = more.countP (Deed.succeeds "restart") := by
    rw [balanced.restarted, Nat.zero_add]
  obtain ⟨reconciliations, skipped, files, applied, errors, commands⟩ :=
    (Settled.mk r result).count_counters u.written
  have appliedNow : n.applied = m.applied + if (Settled.mk r result).isApplied then 1 else 0 := by
    rw [← applied]
    exact plain .applied nofun nofun
  have commandsNow (label : String) :
      n.counted (.command label) = (deeds ++ more).countP (Deed.commands label) := by
    rw [gained, (commands label).1, Deed.count_command, before.commands, List.countP_append,
      Nat.add_zero]
  constructor
  · rw [List.length_append, ← before.reconciliations]
    exact (plain .reconciliations nofun nofun).trans (congrArg _ reconciliations)
  · rw [List.countP_append, List.countP_singleton, ← before.applied, appliedNow]
  · rw [List.countP_append, List.countP_singleton, ← before.errors]
    exact (plain .errors nofun nofun).trans (congrArg _ errors)
  · rw [List.countP_append, List.countP_singleton, ← before.skipped]
    exact (plain .skipped nofun nofun).trans (congrArg _ skipped)
  · rw [List.countP_append, ← before.written, ← written]
    exact (plain .artifactsWritten nofun nofun).trans (congrArg _ files)
  · exact commandsNow
  · intro label
    have earlier := before.succeeded label
    have later := Deed.count_commandError label more
    rw [commandsNow, gained, (commands label).2, List.countP_append, List.countP_append,
      ← before.commands]
    omega
  · have earlier := before.restarted
    rw [appliedNow, List.countP_append, ← restarts]
    split
    · rename_i now
      have success : result = .ok .applied := by
        unfold Settled.isApplied at now
        split at now
        · assumption
        · cases now
      have restart := restarted success
      omega
    · omega

end Accounted

/-- Each request that the world answers is answered as it may be. -/
theorem Equipment.answer_step (e : Equipment) (r : Request) (w : World) :
    ∃ deeds, w.metrics.Step r (e.answer r w).2 deeds (e.answer r w).1.metrics := by
  cases r with
  | read path => exact ⟨_, .read path _⟩
  | write path bytes mode =>
    simp only [answer, write]
    generalize w.disk.replace path bytes mode = outcome
    obtain ⟨disk, fault | done⟩ := outcome
    · exact ⟨_, .notWritten path bytes mode fault⟩
    · exact ⟨_, .written path bytes mode⟩
  | getFlag name => exact ⟨_, .getFlag name _⟩
  | setFlag name value =>
    have same : (e.answer (.setFlag name value) w).1.metrics = w.metrics := by
      simp only [answer, setFlag]
      generalize e.flags.set w.now name value w.disk = outcome
      obtain ⟨disk, fault | _ | _⟩ := outcome <;> rfl
    rw [same]
    exact ⟨_, .setFlag name value _⟩
  | reloadUnits => exact ⟨_, .reloadUnits e.manager e.span w rfl⟩
  | restart unit =>
    cases named : isUnitName unit with
    | true => exact ⟨_, .restart e.manager e.span unit w rfl named⟩
    | false => exact ⟨_, .refused e.manager e.span unit w rfl named⟩
  | report state message =>
    have same : (e.answer (.report state message) w).1.metrics = w.metrics :=
      e.reporter.report_metrics e.span state message w
    rw [same]
    exact ⟨_, .report state message _⟩
  | log event => exact ⟨_, .log event⟩
  | count counter => exact ⟨_, .count counter⟩
  | observeDuration => exact ⟨_, .observe _⟩

/-- So is a program that the world answers. -/
theorem Program.metered_run {α : Type} (p : Program α) (e : Equipment) (w : World) :
    ∃ deeds, p.Metered w.metrics deeds (p.run e.host w).1 (p.run e.host w).2.metrics := by
  induction p generalizing w with
  | done result => exact ⟨[], .done result w.metrics⟩
  | ask r next ih =>
    obtain ⟨deeds, step⟩ := e.answer_step r w
    obtain ⟨more, rest⟩ := ih (e.answer r w).2 (e.answer r w).1
    exact ⟨deeds ++ more, .ask step rest⟩

/-- The world after a call. -/
def World.after (w : World) (r : Reconciliation) (e : Equipment) : World :=
  (r.program.run e.host w).2

namespace Session

variable {calls : List Settled} {deeds : List Deed} {m : Metrics}

/-- A call in the world goes on with the session whose metrics are there. -/
theorem call_run {w : World} (session : Session calls deeds w.metrics) (r : Reconciliation)
    (e : Equipment) : ∃ more, Session (calls ++ [⟨r, (r.program.run e.host w).1⟩]) (deeds ++ more)
      (w.after r e).metrics := by
  obtain ⟨more, metered⟩ := r.program.metered_run e w
  exact ⟨more, .call session metered⟩

/-- The metrics of a session account for it. -/
theorem accounted (session : Session calls deeds m) : Accounted calls deeds m := by
  induction session with
  | opened => exact .opened
  | call before metered ih => exact ih.call metered

end Session

/-- Each result is one of three. -/
theorem Settled.countP_results (calls : List Settled) :
    calls.countP isApplied + calls.countP isError + calls.countP isUnchanged = calls.length := by
  induction calls with
  | nil => rfl
  | cons s rest ih =>
    have each : (if s.isApplied then 1 else 0) + (if s.isError then 1 else 0) +
        (if s.isUnchanged then 1 else 0) = 1 := by
      unfold isApplied isError isUnchanged
      match s.result with
      | .error fault => rfl
      | .ok .unchanged => rfl
      | .ok .applied => rfl
    rw [List.countP_cons, List.countP_cons, List.countP_cons, List.length_cons]
    omega

/-- The metrics of a process account for all calls in it, whatever was answered: each call is
counted, under its result and as skipped if it was; so are the files that were replaced and the
commands that were given, of which all but those that exited successfully are errors. A call applies
something only after a restart that was successful, and one that is refused for the name of its unit
is no command. -/
theorem metrics_account {calls : List Settled} {deeds : List Deed} {m : Metrics}
    (session : Session calls deeds m) :
    m.reconciliations = calls.length ∧
    m.applied = calls.countP Settled.isApplied ∧
    m.errors = calls.countP Settled.isError ∧
    m.applied + m.errors ≤ m.reconciliations ∧
    m.reconciliations - (m.applied + m.errors) = calls.countP Settled.isUnchanged ∧
    m.skipped = calls.countP (fun s =>
      s.call.trigger.event == s.call.service.pollEvent || !s.call.trigger.hasDatabase) ∧
    m.artifactsWritten = deeds.countP Deed.replaces ∧
    (∀ label, m.counted (.command label) = deeds.countP (Deed.commands label) ∧
      m.counted (.commandError label) ≤ m.counted (.command label) ∧
      m.counted (.command label) - m.counted (.commandError label) =
        deeds.countP (Deed.succeeds label)) ∧
    m.applied ≤ m.counted (.command "restart") - m.counted (.commandError "restart") ∧
    ∀ (manager : Systemctl) (span : Option Log.Span) (unit : String) (w : World),
      isUnitName unit = false →
        (manager.restart span unit w) = (w, .error (.invalidUnit unit)) := by
  have account := session.accounted
  have results := Settled.countP_results calls
  rw [← account.applied, ← account.errors, ← account.reconciliations] at results
  have restarts := account.succeeded "restart"
  have restarted := account.restarted
  refine ⟨account.reconciliations, account.applied, account.errors, by omega, by omega,
    account.skipped, account.written, ?_, by omega, ?_⟩
  · intro label
    have succeeded := account.succeeded label
    exact ⟨account.commands label, by omega, by omega⟩
  · intro manager span unit w unnamed
    exact manager.restart_eq_of_not_isUnitName span unnamed w

/-- A call that is due, of a service with short names. -/
def Reconciliation.brief : Reconciliation where
  service := { layout := .ofService "v" ⟨"/s"⟩ ⟨"/u"⟩ }
  environment := ∅
  config := .ofList [(Config.mainDatabaseKey, .text "postgres://d")]
  trigger := ⟨"install", true⟩

/-- What works where there is nothing but the program of the service manager. -/
def Equipment.brief : Equipment :=
  ⟨⟨⟨"/f"⟩⟩, ⟨⟨"/bin/systemctl"⟩⟩, .log, none⟩

namespace World

open Reconciliation in
/-- A world after three calls: one without a database, one with a variable that cannot be named so, and
one in which nothing is amiss. -/
def settled : World :=
  ((withSystemctl.after { brief with trigger.hasDatabase := false } .brief).after
    { brief with environment := .ofList [("1", "")] } .brief).after brief .brief

/-- Counters of all kinds. -/
def counters : List Counter :=
  [.reconciliations, .applied, .errors, .skipped, .artifactsWritten, .command "daemon-reload",
    .commandError "daemon-reload", .command "restart", .commandError "restart"]

/-- What is counted in these calls. -/
theorem settled_counted : counters.map settled.metrics.counted = [3, 1, 1, 1, 2, 1, 0, 1, 0] := by
  decide +kernel

theorem settled_session : ∃ calls deeds m, Session calls deeds m ∧
    counters.map m.counted = [3, 1, 1, 1, 2, 1, 0, 1, 0] := by
  have start : Session [] [] withSystemctl.metrics := .opened
  obtain ⟨_, first⟩ := start.call_run _ .brief
  obtain ⟨_, second⟩ := first.call_run _ .brief
  obtain ⟨_, third⟩ := second.call_run _ .brief
  exact ⟨_, _, settled.metrics, third, settled_counted⟩

end World

/-- The one call that applied something wrote both files and gave two commands that exited
successfully. -/
theorem metrics_account_for_three_calls : ∃ calls deeds m, Session calls deeds m ∧
    m.reconciliations = 3 ∧ m.applied = 1 ∧ m.errors = 1 ∧ m.skipped = 1 ∧
    calls.countP Settled.isUnchanged = 1 ∧ deeds.countP Deed.replaces = 2 ∧
    deeds.countP (Deed.succeeds "daemon-reload") = 1 ∧
    deeds.countP (Deed.succeeds "restart") = 1 := by
  obtain ⟨calls, deeds, m, session, counts⟩ := World.settled_session
  simp only [World.counters, List.map_cons, List.map_nil, List.cons.injEq, and_true] at counts
  obtain ⟨total, applied, errors, skipped, files, reloads, reloadErrors, restarts, restartErrors⟩ :=
    counts
  change m.reconciliations = 3 at total
  change m.applied = 1 at applied
  change m.errors = 1 at errors
  obtain ⟨-, -, -, -, unchanged, -, written, commands, -⟩ := metrics_account session
  obtain ⟨-, -, reloaded⟩ := commands "daemon-reload"
  obtain ⟨-, -, restarted⟩ := commands "restart"
  refine ⟨calls, deeds, m, session, total, applied, errors, skipped, ?_, ?_, ?_, ?_⟩
  · rw [← unchanged, total, applied, errors]
  · exact written.symm.trans files
  · rw [← reloaded, reloads, reloadErrors]
  · rw [← restarted, restarts, restartErrors]

end Upkeep
