import Upkeep.Proofs.Reconcile.Course
import Upkeep.Proofs.Turns

/-! The order of the requests in a reconciliation: what the last exchange has to be for a flag to be
set or unset. Nothing but the mark for a restart follows the mark for a reload, the service counts
as configured right after a restart that went well, and the flag for the restart is unset right
after the one for the reload. Whatever a call writes is as rendered, whoever answers it. -/
namespace Upkeep

/-- The last exchange did not mark a reload, which the mark for a restart is to follow. -/
def Calm (last : Option Exchange) : Prop :=
  last ≠ some ⟨.setFlag Flags.reloadPending true, .ok ()⟩

theorem calm_none : Calm none := by
  intro same
  cases same

theorem calm_of_ne {r : Request} {answer : Answer r}
    (other : r ≠ .setFlag Flags.reloadPending true) : Calm (some ⟨r, answer⟩) := by
  intro same
  exact other (congrArg Exchange.request (Option.some.inj same))

theorem calm_of_quiet {r : Request} {answer : Answer r} (quiet : r.isQuiet = true) :
    Calm (some ⟨r, answer⟩) := by
  apply calm_of_ne
  rintro rfl
  cases quiet

/-- What was refused is no exchange that went well. -/
theorem refused_ne_done {name other : String} {value it : Bool} {fault : FlagFault} :
    (⟨.setFlag name value, .error fault⟩ : Exchange) ≠ ⟨.setFlag other it, .ok ()⟩ := by
  intro same
  cases same

/-- A mark that is refused leaves nothing to follow. -/
theorem calm_of_refused {name : String} {value : Bool} {fault : FlagFault} :
    Calm (some ⟨.setFlag name value, .error fault⟩) := by
  intro same
  exact refused_ne_done (Option.some.inj same)

/-- The flags that may be given a value after an exchange. -/
inductive Touch (s : Service) : Option Exchange → String → Bool → Prop where
  | markReload {last : Option Exchange} (calm : Calm last) : Touch s last Flags.reloadPending true
  | markRestart (last : Option Exchange) : Touch s last Flags.restartPending true
  | configure : Touch s (some ⟨.restart s.layout.serviceName, .ok ()⟩) Flags.configured true
  | clearReload : Touch s (some ⟨.setFlag Flags.configured true, .ok ()⟩) Flags.reloadPending false
  | clearRestart :
      Touch s (some ⟨.setFlag Flags.reloadPending false, .ok ()⟩) Flags.restartPending false

/-- The requests that may come after an exchange while the files of a service are put in place. -/
inductive Turn (s : Service) (files : ServiceFiles) : Option Exchange → Request → Prop where
  | quiet {last : Option Exchange} {r : Request} (calm : Calm last) (quiet : r.isQuiet = true) :
      Turn s files last r
  | touch {last : Option Exchange} {name : String} {value : Bool} (touch : Touch s last name value) :
      Turn s files last (.setFlag name value)
  | writeUnit {last : Option Exchange} (calm : Calm last) :
      Turn s files last (.write files.unit.path files.unit.bytes files.unit.mode)
  | writeSettings {last : Option Exchange} (calm : Calm last) :
      Turn s files last (.write files.settings.path files.settings.bytes files.settings.mode)
  | reload {last : Option Exchange} (calm : Calm last) : Turn s files last .reloadUnits
  | restart {last : Option Exchange} (calm : Calm last) :
      Turn s files last (.restart s.layout.serviceName)

/-- An action that may begin after any calm exchange and ends in one, well or not. -/
def Action.Steady {ε α : Type} (turn : Option Exchange → Request → Prop) (x : Action ε α) : Prop :=
  ∀ last, Calm last → x.InTurn turn last (fun _ last => Calm last) (fun _ last => Calm last)

/-- Quiet requests may come after any calm exchange. -/
def TurnsQuiet (turn : Option Exchange → Request → Prop) : Prop :=
  ∀ last r, Calm last → r.isQuiet = true → turn last r

namespace Action.Steady

variable {ε δ α β : Type} {turn : Option Exchange → Request → Prop}

theorem pure (a : α) : Action.Steady turn (Pure.pure a : Action ε α) :=
  fun _ calm => calm

theorem throw (e : ε) : Action.Steady turn (MonadExcept.throw e : Action ε α) :=
  fun _ calm => calm

theorem bind {x : Action ε α} {next : α → Action ε β} (first : x.Steady turn)
    (later : ∀ a, (next a).Steady turn) : Action.Steady turn (x >>= next) := by
  intro last calm
  apply Action.InTurn.bind
  apply Program.InTurn.mono (first last calm)
  rintro (fault | a) last calm
  · exact calm
  · exact later a last calm

theorem mapFault {wrap : δ → ε} {x : Action δ α} (inner : x.Steady turn) :
    (Action.mapFault wrap x).Steady turn :=
  fun last calm => .mapFault (inner last calm)

theorem outcome {x : Action δ α} (inner : x.Steady turn) :
    Action.Steady turn (Action.outcome x : Action ε (Except δ α)) :=
  fun last calm => .outcome (inner last calm)

theorem discard {x : Action ε α} (inner : x.Steady turn) :
    Action.Steady turn (Functor.discard x) :=
  fun last calm => .discard (inner last calm)

theorem log (quiet : TurnsQuiet turn) (event : Log.Event) :
    Action.Steady turn (Action.log event : Action ε Unit) := by
  intro last calm
  constructor
  · exact quiet last _ calm rfl
  · intro answer
    exact calm_of_quiet rfl

theorem count (quiet : TurnsQuiet turn) (counter : Counter) :
    Action.Steady turn (Action.count counter : Action ε Unit) := by
  intro last calm
  constructor
  · exact quiet last _ calm rfl
  · intro answer
    exact calm_of_quiet rfl

theorem getFlag (quiet : TurnsQuiet turn) (name : String) :
    Action.Steady turn (Action.getFlag name) := by
  intro last calm
  constructor
  · exact quiet last _ calm rfl
  · rintro (fault | value)
    · exact calm_of_quiet rfl
    · exact calm_of_quiet rfl

theorem report (quiet : TurnsQuiet turn) (state : WorkloadState) (message : String) :
    Action.Steady turn (Action.report state message) := by
  intro last calm
  constructor
  · exact quiet last _ calm rfl
  · rintro (fault | answer)
    · exact calm_of_quiet rfl
    · exact calm_of_quiet rfl

end Action.Steady

namespace Artifact

variable {turn : Option Exchange → Request → Prop} {a : Artifact}

theorem readCurrent_steady (quiet : TurnsQuiet turn) (a : Artifact) :
    a.readCurrent.Steady turn := by
  intro last calm
  constructor
  · exact quiet last _ calm rfl
  · intro answer
    change Program.InTurn turn _ (.done (current? a.path answer)) _
    cases current? a.path answer with
    | ok content => exact calm_of_quiet rfl
    | error fault => exact calm_of_quiet rfl

theorem isStale_steady (quiet : TurnsQuiet turn) (a : Artifact) : a.isStale.Steady turn := by
  apply Action.Steady.bind (readCurrent_steady quiet a)
  intro current
  apply Action.Steady.pure

theorem write_steady (may : ∀ last, Calm last → turn last (.write a.path a.bytes a.mode)) :
    a.write.Steady turn := by
  apply Action.Steady.mapFault
  intro last calm
  constructor
  · exact may last calm
  · rintro (fault | done)
    · exact calm_of_ne nofun
    · exact calm_of_ne nofun

theorem apply_steady (quiet : TurnsQuiet turn)
    (may : ∀ last, Calm last → turn last (.write a.path a.bytes a.mode)) :
    a.apply.Steady turn := by
  apply Action.Steady.bind (readCurrent_steady quiet a)
  intro current
  split
  · apply Action.Steady.bind (.log quiet _)
    intro logged
    apply Action.Steady.pure
  · apply Action.Steady.bind (.log quiet _)
    intro logged
    apply Action.Steady.bind (write_steady may)
    intro written
    apply Action.Steady.bind (.count quiet _)
    intro counted
    apply Action.Steady.bind (.log quiet _)
    intro logged
    apply Action.Steady.pure

end Artifact

namespace Service

variable {s : Service} {files : ServiceFiles} {last : Option Exchange}

private theorem turnsQuiet (s : Service) (files : ServiceFiles) : TurnsQuiet (Turn s files) :=
  fun _ _ calm quiet => .quiet calm quiet

theorem reportReady_steady {turn : Option Exchange → Request → Prop} (quiet : TurnsQuiet turn) :
    reportReady.Steady turn :=
  .mapFault (.report quiet _ _)

/-- A flag is given a value in turn; what comes next knows whether that was refused. -/
theorem setFlag_inTurn {turn : Option Exchange → Request → Prop} {name : String} {value : Bool}
    {ok : Unit → Option Exchange → Prop} {bad : ReconcileFault → Option Exchange → Prop}
    (may : turn last (.setFlag name value)) (done : ok () (some ⟨.setFlag name value, .ok ()⟩))
    (refused : ∀ fault, bad (.flag fault) (some ⟨.setFlag name value, .error fault⟩)) :
    (setFlag name value).InTurn turn last ok bad := by
  apply Action.InTurn.mapFault
  constructor
  · exact may
  · rintro (fault | answer)
    · exact refused fault
    · exact done

theorem markPending_steady (unitStale settingsStale : Bool) :
    (markPending unitStale settingsStale).Steady (Turn s files) := by
  have restart (last : Option Exchange) : (setFlag Flags.restartPending true).InTurn (Turn s files)
      last (fun _ last => Calm last) (fun _ last => Calm last) := by
    apply setFlag_inTurn (.touch (.markRestart last))
    · exact calm_of_ne (by decide)
    · exact fun fault => calm_of_refused
  intro last calm
  unfold markPending
  cases unitStale with
  | true =>
    apply Action.InTurn.bind
    apply setFlag_inTurn (.touch (.markReload calm))
    · exact restart _
    · exact fun fault => calm_of_refused
  | false =>
    cases settingsStale with
    | true => exact restart last
    | false => exact calm

/-- A restart that goes well is the last thing that its commands do. -/
theorem restart_inTurn (reload : Bool) (calm : Calm last) :
    (s.restart reload).InTurn (Turn s files) last
      (fun _ last => last = some ⟨.restart s.layout.serviceName, .ok ()⟩)
      (fun _ last => Calm last) := by
  have restart {last : Option Exchange} (calm : Calm last) :
      (Action.restart s.layout.serviceName).InTurn (Turn s files) last
        (fun _ last => last = some ⟨.restart s.layout.serviceName, .ok ()⟩)
        (fun _ last => Calm last) := by
    constructor
    · exact .restart calm
    · rintro (fault | done)
      · exact calm_of_ne nofun
      · rfl
  unfold Service.restart
  cases reload with
  | true =>
    apply Action.InTurn.bind
    constructor
    · exact .reload calm
    · rintro (fault | done)
      · exact calm_of_ne nofun
      · exact restart (calm_of_ne nofun)
  | false => exact restart calm

theorem restartFailed_steady {turn : Option Exchange → Request → Prop} (quiet : TurnsQuiet turn)
    (fault : ServiceFault) : (restartFailed fault).Steady turn := by
  apply Action.Steady.bind (.log quiet _)
  intro logged
  apply Action.Steady.bind (.outcome (.report quiet _ _))
  rintro (refused | done)
  · exact .log quiet _
  · exact .pure ()

/-- The flags are settled in order right after the restart. -/
private theorem settle_inTurn :
    Action.InTurn (Turn s files)
      (do
        setFlag Flags.configured true
        setFlag Flags.reloadPending false
        setFlag Flags.restartPending false
        reportReady
        Action.log .reconciled
        return Outcome.applied)
      (some ⟨.restart s.layout.serviceName, .ok ()⟩)
      (fun _ last => Calm last) (fun _ last => Calm last) := by
  have quiet := turnsQuiet s files
  have finish : Action.Steady (Turn s files)
      (do reportReady; Action.log .reconciled; return Outcome.applied) := by
    apply Action.Steady.bind (reportReady_steady quiet)
    intro reported
    apply Action.Steady.bind (.log quiet _)
    intro logged
    apply Action.Steady.pure
  apply Action.InTurn.bind
  apply setFlag_inTurn (.touch .configure)
  · apply Action.InTurn.bind
    apply setFlag_inTurn (.touch .clearReload)
    · apply Action.InTurn.bind
      apply setFlag_inTurn (.touch .clearRestart)
      · exact finish _ (calm_of_ne (by decide))
      · exact fun fault => calm_of_refused
    · exact fun fault => calm_of_refused
  · exact fun fault => calm_of_refused

private theorem restartPending_steady : s.restartPending.Steady (Turn s files) := by
  have quiet := turnsQuiet s files
  apply Action.Steady.bind (.mapFault (.getFlag quiet _))
  intro reload last calm
  apply Action.InTurn.bind
  apply Action.InTurn.outcome
  apply Program.InTurn.mono (restart_inTurn reload calm)
  rintro (fault | done) last after
  · apply Action.Steady.bind (restartFailed_steady quiet fault)
    · intro told
      exact .throw _
    · exact after
  · subst after
    exact settle_inTurn

/-- The files of a service are put in place in turn. -/
theorem converge_steady : (s.converge files).Steady (Turn s files) := by
  have quiet := turnsQuiet s files
  apply Action.Steady.bind (.mapFault (Artifact.isStale_steady quiet _))
  intro unitStale
  apply Action.Steady.bind (.mapFault (Artifact.isStale_steady quiet _))
  intro settingsStale
  apply Action.Steady.bind (markPending_steady unitStale settingsStale)
  intro marked
  have writeUnit : files.unit.apply.Steady (Turn s files) :=
    Artifact.apply_steady quiet fun _ calm => .writeUnit calm
  apply Action.Steady.bind (.discard (.mapFault writeUnit))
  intro unitWritten
  have writeSettings : files.settings.apply.Steady (Turn s files) :=
    Artifact.apply_steady quiet fun _ calm => .writeSettings calm
  apply Action.Steady.bind (.discard (.mapFault writeSettings))
  intro settingsWritten
  apply Action.Steady.bind (.mapFault (.getFlag quiet _))
  intro due
  cases due with
  | true =>
    apply Action.Steady.bind (.log quiet _)
    intro logged
    exact restartPending_steady
  | false =>
    apply Action.Steady.bind (.log quiet _)
    intro logged
    apply Action.Steady.bind (reportReady_steady quiet)
    intro reported
    apply Action.Steady.pure

end Service

namespace Reconciliation

/-- The requests that may come after an exchange of a call. -/
inductive Turn (r : Reconciliation) : Option Exchange → Request → Prop where
  | quiet {last : Option Exchange} {q : Request} (calm : Calm last) (quiet : q.isQuiet = true) :
      Turn r last q
  | converging {last : Option Exchange} {q : Request} {files : ServiceFiles} (due : r.IsDue)
      (rendered : r.rendering = .ok files) (turn : Upkeep.Turn r.service files last q) :
      Turn r last q

variable {r : Reconciliation}

/-- When a call gives a flag a value. -/
theorem Turn.touches {last : Option Exchange} {name : String} {value : Bool}
    (turn : r.Turn last (.setFlag name value)) : Touch r.service last name value := by
  cases turn with
  | quiet calm quiet => cases quiet
  | converging due rendered turn =>
    cases turn with
    | quiet calm quiet => cases quiet
    | touch touch => exact touch

/-- A request that writes nothing, or one of the files that are rendered for a call that is due. -/
def WritesRendered (r : Reconciliation) : Request → Prop
  | .write path content mode => r.IsDue ∧ ∃ files a, r.rendering = .ok files ∧
      (a = files.unit ∨ a = files.settings) ∧ path = a.path ∧ content = a.bytes ∧ mode = a.mode
  | _ => True

theorem writesRendered_of_quiet {q : Request} (quiet : q.isQuiet = true) : r.WritesRendered q := by
  cases q with
  | write path content mode => cases quiet
  | _ => trivial

theorem Turn.writesRendered {last : Option Exchange} {q : Request} (turn : r.Turn last q) :
    r.WritesRendered q := by
  cases turn with
  | quiet calm quiet => exact writesRendered_of_quiet quiet
  | @converging files due rendered turn =>
    cases turn with
    | quiet calm quiet => exact writesRendered_of_quiet quiet
    | touch touch => trivial
    | writeUnit calm => exact ⟨due, files, files.unit, rendered, .inl rfl, rfl, rfl, rfl⟩
    | writeSettings calm => exact ⟨due, files, files.settings, rendered, .inr rfl, rfl, rfl, rfl⟩
    | reload calm => trivial
    | restart calm => trivial

private theorem turnsQuiet (r : Reconciliation) : TurnsQuiet r.Turn :=
  fun _ _ calm quiet => .quiet calm quiet

private theorem once_steady :
    (r.service.reconcileOnce r.environment r.config r.trigger).Steady r.Turn := by
  have quiet := turnsQuiet r
  unfold Service.reconcileOnce
  split
  · apply Action.Steady.bind (.log quiet _)
    intro logged
    apply Action.Steady.bind (.count quiet _)
    intro counted
    apply Action.Steady.bind (Service.reportReady_steady quiet)
    intro reported
    apply Action.Steady.pure
  · rename_i notPoll
    split
    · rename_i hasDatabase
      split
      · apply Action.Steady.throw
      · rename_i files rendered
        have due : r.IsDue := ⟨notPoll, hasDatabase⟩
        intro last calm
        apply Program.InTurn.widen (Service.converge_steady last calm)
        intro last q turn
        exact .converging due rendered turn
    · apply Action.Steady.bind (.log quiet _)
      intro logged
      apply Action.Steady.bind (.count quiet _)
      intro counted
      apply Action.Steady.pure

private theorem request_inTurn {q : Request} {last : Option Exchange}
    {post : Answer q → Option Exchange → Prop} (quiet : q.isQuiet = true) (calm : Calm last)
    (done : ∀ answer last, Calm last → post answer last) :
    (Program.request q).InTurn r.Turn post last := by
  constructor
  · exact .quiet calm quiet
  · intro answer
    exact done answer _ (calm_of_quiet quiet)

/-- Every call asks in turn, whatever it is answered and whoever answers, and never ends where the
mark for a restart is to follow. -/
theorem program_inTurn (r : Reconciliation) :
    r.program.InTurn r.Turn (fun _ last => Calm last) none := by
  apply Program.InTurn.bind
  apply request_inTurn rfl calm_none
  intro counted last calm
  apply Program.InTurn.bind
  apply Program.InTurn.mono (once_steady last calm)
  intro result last after
  have calm : Calm last := by
    cases result with
    | ok outcome => exact after
    | error fault => exact after
  apply Program.InTurn.bind
  apply request_inTurn rfl calm
  intro observed last calm
  apply Program.InTurn.bind
  cases result with
  | error fault => exact request_inTurn rfl calm fun _ _ calm => calm
  | ok outcome =>
    cases outcome with
    | applied => exact request_inTurn rfl calm fun _ _ calm => calm
    | unchanged => exact calm

/-- A call writes nothing but what is rendered for it, whatever it is answered. -/
theorem program_writes (r : Reconciliation) :
    r.program.InTurn (fun _ q => r.WritesRendered q) (fun _ _ => True) none := by
  apply Program.InTurn.widen (r.program_inTurn.mono fun _ _ _ => trivial)
  intro last q turn
  exact turn.writesRendered

end Reconciliation

end Upkeep
