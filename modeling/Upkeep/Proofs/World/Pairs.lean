import Upkeep.Proofs.Disk.Agreement
import Upkeep.Proofs.Reconcile.Lockstep
import Upkeep.Proofs.World.Hook

/-! Two worlds side by side. Where starting programs, loading and setting flags come to the same in
worlds that go together and leave such worlds, so do commands, reports and all that equipment answers,
and so does handling an event. -/
namespace Upkeep

namespace World

variable {α : Type} {pair : World → World → Prop} {w w' : World}

/-- Worlds that go together still do so after the same was logged or counted in both. -/
structure Pairing (pair : World → World → Prop) : Prop where
  logEvent : ∀ {w w'}, pair w w' → ∀ span event, pair (w.logEvent span event) (w'.logEvent span event)
  count : ∀ {w w'}, pair w w' → ∀ counter, pair (w.count counter) (w'.count counter)

/-- A program is started in worlds that go together with the same result. -/
def StartsAlike (pair : World → World → Prop) (p : Path) : Prop :=
  ∀ {w w'}, pair w w' → ∀ arguments, EndPaired pair (w.start p arguments) (w'.start p arguments)

namespace Pairing

/-- The service manager is commanded alike. -/
theorem command (pairing : Pairing pair) {s : Systemctl} (starts : StartsAlike pair s.program)
    (go : pair w w') (span : Option Log.Span) (label : String) (arguments : List String) :
    EndPaired pair (s.run span label arguments w) (s.run span label arguments w') := by
  have begun := pairing.count (pairing.logEvent go span
    (.runningCommand (" ".intercalate (s.program.text :: arguments)))) (.command label)
  obtain ⟨v, v', result, started, started', after⟩ := (starts begun arguments).parts
  simp only [Systemctl.run, started, started']
  cases result with
  | error fault => exact ⟨rfl, pairing.count after _⟩
  | ok tool =>
    dsimp only
    split
    · exact ⟨rfl, after⟩
    · exact ⟨rfl, pairing.count after _⟩

theorem reloadUnits (pairing : Pairing pair) {s : Systemctl} (starts : StartsAlike pair s.program)
    (go : pair w w') (span : Option Log.Span) :
    EndPaired pair (s.reloadUnits span w) (s.reloadUnits span w') := by
  obtain ⟨v, v', result, ran, ran', after⟩ :=
    (pairing.command starts go span "daemon-reload" ["daemon-reload"]).parts
  simp only [Systemctl.reloadUnits, ran, ran']
  cases result with
  | error fault => exact ⟨rfl, after⟩
  | ok done => exact ⟨rfl, pairing.logEvent after span _⟩

theorem restart (pairing : Pairing pair) {s : Systemctl} (starts : StartsAlike pair s.program)
    (go : pair w w') (span : Option Log.Span) (unit : String) :
    EndPaired pair (s.restart span unit w) (s.restart span unit w') := by
  obtain ⟨v, v', result, ran, ran', after⟩ :=
    (pairing.command starts go span "restart" ["restart", unit]).parts
  simp only [Systemctl.restart, ran, ran']
  split
  · cases result with
    | error fault => exact ⟨rfl, after⟩
    | ok done => exact ⟨rfl, pairing.logEvent after span _⟩
  · exact ⟨rfl, go⟩

/-- The state of the workload is reported alike. -/
theorem report (pairing : Pairing pair) {r : Reporter}
    (starts : ∀ path, r = .tool path → StartsAlike pair path) (go : pair w w')
    (span : Option Log.Span) (state : WorkloadState) (message : String) :
    EndPaired pair (r.report span state message w) (r.report span state message w') := by
  cases r with
  | log => exact ⟨rfl, pairing.logEvent go span _⟩
  | tool path =>
    have begun := pairing.logEvent go span (.settingStatus path state message)
    obtain ⟨v, v', result, started, started', after⟩ :=
      (starts path rfl begun [state.name, message]).parts
    simp only [Reporter.report, started, started']
    cases result with
    | error fault => exact ⟨rfl, after⟩
    | ok run =>
      dsimp only
      split
      · exact ⟨rfl, after⟩
      · exact ⟨rfl, after⟩

end Pairing

end World

namespace Equipment

variable {e : Equipment} {pair : World → World → Prop} {w w' : World}

/-- What equipment relies on so that it tells alike in worlds that go together. -/
structure Tells (e : Equipment) (pair : World → World → Prop) : Prop extends World.Pairing pair where
  observe : ∀ {w w'}, pair w w' → pair (e.answer .observeDuration w).1 (e.answer .observeDuration w').1
  reporter : ∀ path, e.reporter = .tool path → World.StartsAlike pair path
  load : ∀ {w w'}, pair w w' → e.flags.load w'.disk = e.flags.load w.disk

/-- What it relies on so that it answers alike. -/
structure Pairs (e : Equipment) (pair : World → World → Prop) : Prop extends e.Tells pair where
  manager : World.StartsAlike pair e.manager.program
  set : ∀ {w w'}, pair w w' → ∀ name value, ∃ d d' result,
    e.flags.set w.now name value w.disk = (d, result) ∧
      e.flags.set w'.now name value w'.disk = (d', result) ∧
        pair { w with disk := d } { w' with disk := d' }

/-- Quiet requests that are made in the same words are answered alike. -/
theorem Tells.answer (tells : e.Tells pair) (go : pair w w') {r : Request} (quiet : r.isQuiet = true)
    (shared : r.isShared = true) : EndPaired pair (e.answer r w) (e.answer r w') := by
  cases r with
  | read path => cases shared
  | log event => cases shared
  | write path content mode => cases quiet
  | setFlag name value => cases quiet
  | reloadUnits => cases quiet
  | restart unit => cases quiet
  | getFlag name => exact ⟨congrArg (Except.map _) (tells.load go), go⟩
  | report state message => exact tells.report tells.reporter go e.span state message
  | count counter => exact ⟨rfl, tells.count go counter⟩
  | observeDuration => exact ⟨rfl, tells.observe go⟩

theorem Pairs.setFlag (pairs : e.Pairs pair) (go : pair w w') (name : String) (value : Bool) :
    EndPaired pair (e.setFlag name value w) (e.setFlag name value w') := by
  obtain ⟨d, d', result, set, set', after⟩ := pairs.set go name value
  simp only [Equipment.setFlag, set, set']
  cases result with
  | error fault => exact ⟨rfl, after⟩
  | ok change =>
    cases change with
    | alreadySet => exact ⟨rfl, pairs.logEvent after e.span _⟩
    | persisted => exact ⟨rfl, pairs.logEvent after e.span _⟩

/-- Requests that are made in the same words are answered alike. -/
theorem Pairs.answer (pairs : e.Pairs pair) (go : pair w w') {r : Request}
    (shared : r.isShared = true) : EndPaired pair (e.answer r w) (e.answer r w') := by
  cases r with
  | read path => cases shared
  | write path content mode => cases shared
  | log event => cases shared
  | setFlag name value => exact pairs.setFlag go name value
  | reloadUnits => exact pairs.reloadUnits pairs.manager go e.span
  | restart unit => exact pairs.restart pairs.manager go e.span unit
  | getFlag name => exact pairs.toTells.answer go rfl rfl
  | report state message => exact pairs.toTells.answer go rfl rfl
  | count counter => exact pairs.toTells.answer go rfl rfl
  | observeDuration => exact pairs.toTells.answer go rfl rfl

end Equipment

/-- A reconciliation that is not due only tells, and so it comes to the same. -/
theorem Reconciliation.run_of_idle (r : Reconciliation) {e : Equipment} {pair : World → World → Prop}
    {w w' : World} (idle : ¬ r.IsDue) (tells : e.Tells pair) (go : pair w w') :
    (r.program.run e.host w').1 = (r.program.run e.host w).1 ∧
      pair (r.program.run e.host w).2 (r.program.run e.host w').2 := by
  have lockstep := program_lockstep (r := r) rfl rfl fun _ => RendersLike.refl r
  refine (r.program_inTurn.and (lockstep.inTurn none)).run_pair pair ?_ go
  intro last q state state' asked go
  have quiet : q.isQuiet = true := by
    cases asked.1 with
    | quiet calm quiet => exact quiet
    | converging due rendered turn => exact absurd due idle
  have answered : EndPaired pair (e.answer q state) (e.answer q state') := by
    cases asked.2 with
    | read twins => exact absurd twins.due idle
    | write twins => exact absurd twins.due idle
    | log event => exact ⟨rfl, tells.logEvent go e.span event⟩
    | shared shared => exact tells.answer go quiet shared
  exact ⟨answered.result, answered.states⟩

namespace Setup

variable {s : Setup} {event : String} {inputs inputs' : Inputs} {loaded loaded' : HookInputs}
  {pair : World → World → Prop} {w w' : World}

/-- What handling an event relies on so that it comes to the same in two worlds that go together: the
programs are found alike, the flags are the same, and so is what the reconciler comes to. -/
structure HandlesAlike (s : Setup) (loaded loaded' : HookInputs) (pair : World → World → Prop)
    (w w' : World) : Prop where
  go : pair w w'
  logEvent : ∀ {v v'}, pair v v' → ∀ span event, pair (v.logEvent span event) (v'.logEvent span event)
  trigger : loaded'.trigger = loaded.trigger
  manager : Systemctl.discover w' s.systemctl = Systemctl.discover w s.systemctl
  reporter : w'.find Log.Event.statusTool = w.find Log.Event.statusTool
  load : s.flagFile.load w'.disk = s.flagFile.load w.disk
  run : ∀ e : Equipment, e.flags = s.flagFile → Systemctl.discover w s.systemctl = .ok e.manager →
    (Reporter.discover w).2 = e.reporter → pair (Reporter.discover w).1 (Reporter.discover w').1 →
    ((s.reconciliation loaded').program.run e.host (Reporter.discover w').1).1 =
        ((s.reconciliation loaded).program.run e.host (Reporter.discover w).1).1 ∧
      pair ((s.reconciliation loaded).program.run e.host (Reporter.discover w).1).2
        ((s.reconciliation loaded').program.run e.host (Reporter.discover w').1).2

theorem HandlesAlike.discover (alike : s.HandlesAlike loaded loaded' pair w w') :
    EndPaired pair (Reporter.discover w) (Reporter.discover w') := by
  unfold Reporter.discover
  rw [alike.reporter]
  cases w.find Log.Event.statusTool with
  | ok path => exact ⟨rfl, alike.go⟩
  | error fault => exact ⟨rfl, alike.logEvent alike.go none _⟩

theorem HandlesAlike.runConfigure (alike : s.HandlesAlike loaded loaded' pair w w') :
    EndPaired pair (Handler.runConfigure s loaded w) (Handler.runConfigure s loaded' w') := by
  have run := alike.run
  obtain ⟨start, start', reporter, found, found', begin⟩ := alike.discover.parts
  rw [found, found'] at run
  unfold Handler.runConfigure
  rw [alike.manager, found, found', alike.trigger]
  cases discovered : Systemctl.discover w s.systemctl with
  | error fault => exact ⟨rfl, alike.go⟩
  | ok manager =>
    obtain ⟨e, made⟩ : ∃ e : Equipment,
        e = ⟨s.flagFile, manager, reporter, some ⟨s.serviceName, loaded.trigger.event⟩⟩ := ⟨_, rfl⟩
    simp only [← made]
    obtain ⟨same, worlds⟩ := run e (by rw [made]) (by rw [discovered, made]) (by rw [made]) begin
    obtain ⟨result, after, ran⟩ : ∃ result after,
        (s.reconciliation loaded).program.run e.host start = (result, after) := ⟨_, _, rfl⟩
    obtain ⟨result', after', ran'⟩ : ∃ result after,
        (s.reconciliation loaded').program.run e.host start' = (result, after) := ⟨_, _, rfl⟩
    rw [ran, ran'] at same worlds
    obtain rfl : result' = result := same
    have first : ((s.service.reconcile loaded.environment loaded.config loaded.trigger).run
        e.host).run start = (result', after) := ran
    have second : ((s.service.reconcile loaded'.environment loaded'.config loaded.trigger).run
        e.host).run start' = (result', after') := by
      rw [← alike.trigger]
      exact ran'
    rw [first, second]
    cases result' with
    | error fault => exact ⟨rfl, worlds⟩
    | ok outcome => exact ⟨rfl, alike.logEvent worlds none _⟩

/-- Handling an event comes to the same in worlds that go together. -/
theorem HandlesAlike.hook (alike : s.HandlesAlike loaded loaded' pair w w') (flags : List String)
    (loads : s.loadHook event inputs w = .ok loaded)
    (loads' : s.loadHook event inputs' w' = .ok loaded') :
    EndPaired pair (s.hook event flags inputs w) (s.hook event flags inputs' w') := by
  have active : s.flagFile.active w'.disk = s.flagFile.active w.disk :=
    congrArg (Except.map _) alike.load
  simp only [Setup.hook, loads, loads', active, alike.trigger]
  cases s.flagFile.active w.disk with
  | error fault => exact ⟨rfl, alike.go⟩
  | ok persisted =>
    dsimp only
    rw [Handler.ready_table]
    split
    · exact ⟨rfl, alike.logEvent alike.go none _⟩
    · rename_i handlers busy
      split
      · rw [runAll_configure, runAll_configure]
        exact alike.runConfigure
      · rename_i idle
        rw [if_neg idle] at busy
        exact absurd rfl busy

end Setup

end Upkeep
