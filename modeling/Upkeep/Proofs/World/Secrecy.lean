import Upkeep.Proofs.Disk.Outline
import Upkeep.Proofs.Layout
import Upkeep.Proofs.World.Genuine
import Upkeep.Proofs.World.Pairs

/-! Credentials stay out of the log. Two worlds with other secrets in their files and in the
deployment environment look the same to whoever knows no contents. Handling an event leaves them so,
and what it logs in both differs in digests only, below the level that is meant for everyone. -/
namespace Upkeep

namespace Log

/-- Whether an entry is about as much as operators usually see, or matters more. -/
def Entry.isProminent (e : Entry) : Bool :=
  e.event.level.detail ≤ Level.info.detail

/-- Only an event that says how files differ has digests to lose. -/
theorem Event.withoutDigests_of_prominent {event : Event}
    (prominent : event.level.detail ≤ Level.info.detail) : event.withoutDigests = event := by
  cases event with
  | artifactDiffers path previous next =>
    simp [level, Level.detail] at prominent
  | _ => rfl

theorem Event.level_withoutDigests (event : Event) : event.withoutDigests.level = event.level := by
  cases event <;> rfl

/-- Entries that differ in digests only are the same if they are prominent. -/
theorem Entry.prominent_congr {e e' : Entry} (same : e'.withoutDigests = e.withoutDigests) :
    e'.isProminent = e.isProminent ∧ (e.isProminent = true → e' = e) := by
  have event : e'.event.withoutDigests = e.event.withoutDigests := congrArg Entry.event same
  have level : e'.event.level = e.event.level := by
    rw [← Event.level_withoutDigests, event, Event.level_withoutDigests]
  refine ⟨by simp only [isProminent, level], fun prominent => ?_⟩
  have visible : e.event.level.detail ≤ Level.info.detail := of_decide_eq_true prominent
  rw [Event.withoutDigests_of_prominent visible,
    Event.withoutDigests_of_prominent (level ▸ visible)] at event
  obtain ⟨event', span'⟩ := e'
  exact congr (congrArg Entry.mk event) (congrArg Entry.span same)

/-- Logs that differ in digests only are the same in what is prominent. -/
theorem prominent_of_withoutDigests {log log' : List Entry}
    (same : log'.map Entry.withoutDigests = log.map Entry.withoutDigests) :
    log'.filter Entry.isProminent = log.filter Entry.isProminent := by
  induction log generalizing log' with
  | nil => rw [List.map_eq_nil_iff.mp same]
  | cons e rest ih =>
    cases log' with
    | nil => cases same
    | cons e' rest' =>
      obtain ⟨first, later⟩ := List.cons.inj same
      obtain ⟨prominent, equal⟩ := Entry.prominent_congr first
      rw [List.filter_cons, List.filter_cons, prominent, ih later]
      split
      · rename_i shown
        rw [equal shown]
      · rfl

end Log

namespace World

variable {w w' : World} {p : Path} {name : String} {arguments : List String}

/-- What is known of a world without the contents of its files and its deployment environment. -/
def known (w : World) : World where
  disk := w.disk.outline
  tools := w.tools
  environment := w.environment.erase Environment.deploymentVariable
  now := w.now

theorem isExecutable_known (w : World) : w.known.isExecutable = w.isExecutable := by
  funext p
  unfold isExecutable known
  dsimp only
  rw [Disk.resolve_outline]
  cases w.disk.resolve p with
  | error fault => rfl
  | ok l =>
    dsimp only
    rw [Disk.get?_outline]
    rcases w.disk.get? l with _ | (_ | _) <;> rfl

theorem startable_known (w : World) : w.known.startable = w.startable := by
  funext p
  unfold startable known
  dsimp only
  rw [Disk.resolve_outline]
  refine congrArg _ (funext fun l => ?_)
  rw [Disk.get?_outline]
  rcases w.disk.get? l with _ | (_ | _) <;> rfl

theorem get?_known (other : name ≠ Environment.deploymentVariable) :
    w.known.environment.get? name = w.environment.get? name := by
  change (w.environment.erase _).get? name = _
  rw [SortedMap.get?_erase, if_neg other.symm]

theorem searchDirectories?_known (w : World) : w.known.searchDirectories? = w.searchDirectories? := by
  unfold searchDirectories?
  rw [get?_known (by decide)]

theorem expanded?_known (w : World) : w.known.expanded? = w.expanded? := by
  funext directory
  unfold expanded?
  rw [get?_known (by decide)]

/-- Programs are found by what is known. -/
theorem find_known (w : World) (name : String) : w.known.find name = w.find name := by
  unfold find
  rw [searchDirectories?_known, expanded?_known, isExecutable_known]

theorem locate_known (w : World) (p : Path) : w.known.locate p = w.locate p := by
  have first (otherwise : Fault) (paths : List Path) :
      w.known.startFirst otherwise paths = w.startFirst otherwise paths := by
    induction paths generalizing otherwise with
    | nil => rfl
    | cons path rest ih => simp only [startFirst, startable_known, ih]
  simp only [locate, startable_known, searchDirectories?_known, first]

/-- What comes of starting a program is known as well. -/
theorem start_known (w : World) (p : Path) (arguments : List String) :
    (w.known.start p arguments).2 = (w.start p arguments).2 := by
  unfold start
  rw [locate_known]
  split
  · rfl
  · split
    · rfl
    · split <;> rfl

end World

/-- Two worlds in which as much is known, whose flags are the same, and whose logs differ in digests
only. -/
structure World.Resembles (f : FlagFile) (w w' : World) : Prop where
  known : w'.known = w.known
  flags : w'.disk.file? f.path.place = w.disk.file? f.path.place
  log : w'.log.map Log.Entry.withoutDigests = w.log.map Log.Entry.withoutDigests

/-- Flags that are the same are loaded alike. -/
theorem FlagFile.load_of_outline {f : FlagFile} {d d' : Disk} (outline : d'.outline = d.outline)
    (flags : d'.file? f.path.place = d.file? f.path.place) : f.load d' = f.load d := by
  unfold load Disk.readText
  rw [Disk.read_of_outline outline flags]

/-- Flags that are the same are set alike, and stay the same. -/
theorem FlagFile.set_of_outline {f : FlagFile} {d d' : Disk} (outline : d'.outline = d.outline)
    (flags : d'.file? f.path.place = d.file? f.path.place) (now : Timestamp) (name : String)
    (value : Bool) : ∃ after after' result,
      f.set now name value d = (after, result) ∧ f.set now name value d' = (after', result) ∧
        after'.outline = after.outline ∧ after'.file? f.path.place = after.file? f.path.place := by
  unfold set
  rw [load_of_outline outline flags]
  cases f.load d with
  | error fault => exact ⟨d, d', _, rfl, rfl, outline, flags⟩
  | ok document =>
    dsimp only
    split
    · exact ⟨d, d', _, rfl, rfl, outline, flags⟩
    · generalize (Flags.Document.print _).toUTF8 = content
      have same := Disk.replace_of_outline outline f.path content content mode
      have kept : (d'.replace f.path content mode).1.file? f.path.place =
          (d.replace f.path content mode).1.file? f.path.place := by
        rcases Disk.replace_cases_of_outline outline f.path content content mode with
          kept | ⟨placed, placed'⟩
        · exact (kept _).2.trans (flags.trans (kept _).1.symm)
        · exact placed'.trans placed.symm
      cases first : d.replace f.path content mode with
      | mk after result =>
        cases second : d'.replace f.path content mode with
        | mk after' result' =>
          rw [first, second] at same kept
          obtain ⟨alike, rfl⟩ := same
          cases result' with
          | error fault => exact ⟨after, after', _, rfl, rfl, alike, kept⟩
          | ok done => exact ⟨after, after', _, rfl, rfl, alike, kept⟩

namespace World.Resembles

variable {f : FlagFile} {w w' : World} {α : Type}

theorem outline (alike : Resembles f w w') : w'.disk.outline = w.disk.outline :=
  congrArg World.disk alike.known

theorem now (alike : Resembles f w w') : w'.now = w.now := by
  have same := congrArg World.now alike.known
  exact same

theorem find (alike : Resembles f w w') (name : String) : w'.find name = w.find name := by
  rw [← w'.find_known, alike.known, w.find_known]

theorem known_of_disk {d d' : Disk} (alike : Resembles f w w') (same : d'.outline = d.outline) :
    ({ w' with disk := d' } : World).known = ({ w with disk := d } : World).known := by
  have known := congrArg (fun v : World => { v with disk := d.outline }) alike.known
  unfold World.known
  dsimp only
  rw [same]
  exact known

/-- Flags are loaded alike. -/
theorem load (alike : Resembles f w w') : f.load w'.disk = f.load w.disk :=
  f.load_of_outline alike.outline alike.flags

theorem logEvent {event event' : Log.Event} (alike : Resembles f w w') (span : Option Log.Span)
    (same : event'.withoutDigests = event.withoutDigests) :
    Resembles f (w.logEvent span event) (w'.logEvent span event') where
  known := alike.known
  flags := alike.flags
  log := by
    simp only [World.logEvent, List.map_append, List.map_cons, List.map_nil, alike.log,
      Log.Entry.withoutDigests, same]

theorem count (alike : Resembles f w w') (counter : Counter) :
    Resembles f (w.count counter) (w'.count counter) :=
  ⟨alike.known, alike.flags, alike.log⟩

/-- Programs are started alike. -/
theorem start (alike : Resembles f w w') (p : Path) (arguments : List String) :
    EndPaired (Resembles f) (w.start p arguments) (w'.start p arguments) := by
  obtain ⟨calls, started⟩ := w.start_leaves p arguments
  obtain ⟨calls', started'⟩ := w'.start_leaves p arguments
  constructor
  · rw [← w'.start_known, alike.known, w.start_known]
  · rw [started, started']
    exact ⟨alike.known, alike.flags, alike.log⟩

/-- Replacing a file comes to the same where the flags are not kept in it. -/
theorem write {p : Path} {content content' : ByteArray} {mode : Nat} (alike : Resembles f w w')
    (apart : f.path.place ≠ p.place) :
    EndPaired (Resembles f) (Equipment.write p content mode w) (Equipment.write p content' mode w') := by
  have same := Disk.replace_of_outline alike.outline p content content' mode
  rw [Equipment.write_eq, Equipment.write_eq]
  refine ⟨same.2, alike.known_of_disk same.1, ?_, alike.log⟩
  rw [Disk.file?_replace (Disk.place_proper f.path) apart,
    Disk.file?_replace (Disk.place_proper f.path) apart, alike.flags]

end World.Resembles

/-- Equipment answers alike in worlds that resemble each other. -/
theorem Equipment.pairs_of_resembles (e : Equipment) : e.Pairs (World.Resembles e.flags) where
  logEvent alike span _ := alike.logEvent span rfl
  count alike counter := alike.count counter
  observe alike := ⟨alike.known, alike.flags, alike.log⟩
  manager alike arguments := alike.start _ arguments
  reporter _ _ _ _ alike arguments := alike.start _ arguments
  load alike := alike.load
  set {w w'} alike name value := by
    obtain ⟨d, d', result, set, set', outline, flags⟩ :=
      e.flags.set_of_outline alike.outline alike.flags w.now name value
    rw [← alike.now] at set'
    exact ⟨d, d', result, set, set', alike.known_of_disk outline, flags, alike.log⟩

/-- A disk has a file of a service as it shall be. -/
def Disk.Holds (d : Disk) (a : Artifact) : Prop :=
  (d.file? a.path.place).map (·.2) = some a.bytes

/-- Of files that go together, the same are stale. -/
def SameStale (twins : Artifact → Artifact → Prop) (d d' : Disk) : Prop :=
  ∀ a a', twins a a' → (d.Holds a ↔ d'.Holds a')

/-- Pairs of files lie apart from each other and from the flags. -/
structure LieApart (twins : Artifact → Artifact → Prop) (f : FlagFile) : Prop where
  flags : ∀ a a', twins a a' → f.path.place ≠ a.path.place
  pairs : ∀ a a' b b', twins a a' → twins b b' → b.path.place = a.path.place → b = a ∧ b' = a'

namespace SameStale

variable {twins : Artifact → Artifact → Prop} {f : FlagFile} {d d' : Disk} {a a' : Artifact}

theorem of_files {after after' : Disk} (stale : SameStale twins d d')
    (kept : ∀ b b', twins b b' → after.file? b.path.place = d.file? b.path.place ∧
      after'.file? b'.path.place = d'.file? b'.path.place) : SameStale twins after after' := by
  intro b b' pair
  unfold Disk.Holds
  rw [(kept b b' pair).1, (kept b b' pair).2]
  exact stale b b' pair

/-- Files that go together are replaced in both runs, and then both are as they shall be, or in none. -/
theorem replace (stale : SameStale twins d d') (outline : d'.outline = d.outline)
    (alike : Artifact.Twinned twins) (apart : LieApart twins f) (pair : twins a a') :
    SameStale twins (d.replace a.path a.bytes a.mode).1 (d'.replace a'.path a'.bytes a'.mode).1 := by
  have path := alike.path a a' pair
  rw [path, alike.mode a a' pair]
  rcases Disk.replace_cases_of_outline outline a.path a.bytes a'.bytes a.mode with
    kept | ⟨placed, placed'⟩
  · exact stale.of_files fun b b' _ => ⟨(kept _).1, (kept _).2⟩
  · intro b b' other
    by_cases place : b.path.place = a.path.place
    · obtain ⟨rfl, rfl⟩ := apart.pairs a a' b b' pair other place
      unfold Disk.Holds
      rw [path, placed, placed']
      exact ⟨fun _ => rfl, fun _ => rfl⟩
    · have place' : b'.path.place ≠ a.path.place := alike.path b b' other ▸ place
      unfold Disk.Holds
      rw [Disk.file?_replace (Disk.place_proper _) place,
        Disk.file?_replace (Disk.place_proper _) place']
      exact stale b b' other

end SameStale

/-- Files that go together read alike. -/
theorem World.Resembles.read {f : FlagFile} {w w' : World} {a a' : Artifact}
    (alike : World.Resembles f w w') (path : a'.path = a.path)
    (stale : w.disk.Holds a ↔ w'.disk.Holds a') :
    ReadAlike a a' (w.disk.read a.path) (w'.disk.read a'.path) := by
  rw [path]
  rcases Disk.read_cases alike.outline a.path with
    ⟨fault, failed, failed'⟩ | ⟨mode, content, content', ok, ok', there, there'⟩
  · rw [failed, failed']
    exact .failed fault
  · rw [ok, ok']
    refine .found ?_
    unfold Disk.Holds at stale
    rw [path, there, there'] at stale
    simpa using stale

namespace Equipment

variable {e : Equipment} {r : Request}

/-- A request that two runs make in the same words leaves all files alone but that of the flags. -/
theorem file?_of_shared (shared : r.isShared = true) (w : World) {l : Location} (proper : l.Proper)
    (apart : l ≠ e.flags.path.place) : (e.answer r w).1.disk.file? l = w.disk.file? l := by
  cases r with
  | setFlag name value =>
    have disk : (e.answer (.setFlag name value) w).1.disk = (e.flags.set w.now name value w.disk).1 :=
      e.setFlag_disk name value w
    rw [disk]
    rcases e.flags.set_changes w.now name value w.disk with same | ⟨document, result, loaded, replacing⟩
    · rw [same]
    · exact replacing.file?_other proper apart
  | reloadUnits => exact congrArg (Disk.file? · l) (e.manager.reloadUnits_disk e.span w)
  | restart unit => exact congrArg (Disk.file? · l) (e.manager.restart_disk e.span unit w)
  | report state message =>
    exact congrArg (Disk.file? · l) (e.reporter.report_alike e.span state message w).disk
  | getFlag name => rfl
  | count counter => rfl
  | observeDuration => rfl
  | read path => cases shared
  | write path content mode => cases shared
  | log event => cases shared

/-- A program goes on with the answer to what it asks for first. -/
theorem run_ask {α : Type} {next : Answer r → Program α} {w v : World} {answer : Answer r}
    (answered : e.answer r w = (v, answer)) :
    (Program.ask r next).run e.host w = (next answer).run e.host v := by
  change (next (e.answer r w).2).run e.host (e.answer r w).1 = _
  rw [answered]

end Equipment

/-- Programs in lockstep that run in worlds which resemble each other come to the same. -/
theorem Program.Lockstep.run {α : Type} {twins : Artifact → Artifact → Prop} {e : Equipment}
    {p p' : Program α} {post : α → α → Prop} (lockstep : p.Lockstep twins post p')
    (paired : Artifact.Twinned twins) (apart : LieApart twins e.flags) {w w' : World}
    (alike : World.Resembles e.flags w w') (stale : SameStale twins w.disk w'.disk) :
    post (p.run e.host w).1 (p'.run e.host w').1 ∧
      World.Resembles e.flags (p.run e.host w).2 (p'.run e.host w').2 := by
  induction lockstep generalizing w w' with
  | done ends => exact ⟨ends, alike⟩
  | @read a a' next next' pair rest ih =>
    exact ih _ _ (alike.read (paired.path a a' pair) (stale a a' pair)) alike stale
  | @write a a' next next' pair rest ih =>
    have written : EndPaired (World.Resembles e.flags) (e.answer (.write a.path a.bytes a.mode) w)
        (e.answer (.write a'.path a'.bytes a'.mode) w') := by
      rw [paired.path a a' pair, paired.mode a a' pair]
      exact alike.write (apart.flags a a' pair)
    have after : SameStale twins (e.answer (.write a.path a.bytes a.mode) w).1.disk
        (e.answer (.write a'.path a'.bytes a'.mode) w').1.disk := by
      simp only [Equipment.answer, Equipment.write_eq]
      exact stale.replace alike.outline paired apart pair
    obtain ⟨v, v', answer, ran, ran', worlds⟩ := written.parts
    rw [Equipment.run_ask ran, Equipment.run_ask ran']
    rw [ran, ran'] at after
    exact ih answer worlds after
  | log same rest ih => exact ih (alike.logEvent e.span same) stale
  | @shared r next next' shared rest ih =>
    have after : SameStale twins (e.answer r w).1.disk (e.answer r w').1.disk := by
      refine stale.of_files fun b b' other => ?_
      have flags := (apart.flags b b' other).symm
      rw [paired.path b b' other]
      exact ⟨Equipment.file?_of_shared shared w (Disk.place_proper _) flags,
        Equipment.file?_of_shared shared w' (Disk.place_proper _) flags⟩
    obtain ⟨v, v', answer, ran, ran', worlds⟩ := (e.pairs_of_resembles.answer alike shared).parts
    rw [Equipment.run_ask ran, Equipment.run_ask ran']
    rw [ran, ran'] at after
    exact ih answer worlds after

namespace Setup

variable {s : Setup} {event : String} {flags : List String} {inputs inputs' : Inputs}
  {loaded loaded' : HookInputs} {w w' : World}

/-- What made an event necessary is known without reading any input. -/
theorem trigger_of_loadHook (loads : s.loadHook event inputs w = .ok loaded) :
    loaded.trigger = ⟨event, inputs.database.isSome⟩ := by
  by_cases poll : event = s.pollEvent
  · rw [loadHook, if_pos poll] at loads
    cases loads
    rfl
  · rcases loads_of_loadHook poll loads with ⟨missing, trigger⟩ | ⟨database, operator, found⟩
    · rw [trigger]
      unfold Inputs.loadDatabase at missing
      split at missing
      · rename_i none
        rw [none]
        rfl
      · cases (Result.map_eq_ok.mp missing).choose_spec.2
      · cases (Result.map_eq_ok.mp missing).choose_spec.2
    · rw [found.trigger]
      have loads := found.database_loads
      unfold Inputs.loadDatabase at loads
      split at loads
      · cases loads
      · rename_i given
        rw [given]
        rfl
      · rename_i given
        rw [given]
        rfl

/-- The files of two reconciliations of one service lie apart where the flags lie apart from them. -/
theorem StateApart.lieApart (apart : s.StateApart) :
    LieApart ((s.reconciliation loaded).Twins (s.reconciliation loaded')) s.flagFile := by
  have lie {loaded : HookInputs} {files : ServiceFiles}
      (rendered : (s.reconciliation loaded).rendering = .ok files) : files.LieAt s.layout :=
    Service.lieAt_of_render rendered
  have other := Layout.place_unitPath_ne s.serviceName s.baseDirectory s.unitDirectory
  constructor
  · rintro a a' (⟨due, rendered, rendered'⟩ | ⟨due, rendered, rendered'⟩)
    · rw [(lie rendered).unit]
      exact apart.state_unit
    · rw [(lie rendered).settings]
      exact apart.state_settings
  · rintro a a' b b' (⟨due, rendered, rendered'⟩ | ⟨due, rendered, rendered'⟩)
      (⟨-, again, again'⟩ | ⟨-, again, again'⟩) place
    · cases rendered.symm.trans again
      cases rendered'.symm.trans again'
      exact ⟨rfl, rfl⟩
    · rw [(lie rendered).unit, (lie again).settings] at place
      exact absurd place.symm other
    · rw [(lie rendered).settings, (lie again).unit] at place
      exact absurd place other
    · cases rendered.symm.trans again
      cases rendered'.symm.trans again'
      exact ⟨rfl, rfl⟩

/-- What two runs of one event start from: what is loaded and rendered differs in contents only, and
the same files are stale. -/
structure Counterparts (s : Setup) (loaded loaded' : HookInputs) (d d' : Disk) : Prop where
  trigger : loaded'.trigger = loaded.trigger
  renders : (s.reconciliation loaded).IsDue →
    (s.reconciliation loaded).RendersLike (s.reconciliation loaded')
  stale : SameStale ((s.reconciliation loaded).Twins (s.reconciliation loaded')) d d'

/-- What handling an event relies on holds of worlds that resemble each other. -/
theorem Counterparts.handlesAlike (counterparts : s.Counterparts loaded loaded' w.disk w'.disk)
    (apart : s.StateApart) (alike : World.Resembles s.flagFile w w') :
    s.HandlesAlike loaded loaded' (World.Resembles s.flagFile) w w' where
  go := alike
  logEvent alike span _ := alike.logEvent span rfl
  trigger := counterparts.trigger
  manager := by
    unfold Systemctl.discover
    rw [alike.find]
  reporter := alike.find _
  load := alike.load
  run e equipped _ _ begins := by
    have lockstep : (s.reconciliation loaded).program.Lockstep _ (· = ·)
        (s.reconciliation loaded').program :=
      Reconciliation.program_lockstep rfl counterparts.trigger counterparts.renders
    have disk := (Reporter.discover_alike w).disk
    have disk' := (Reporter.discover_alike w').disk
    rw [← equipped] at begins ⊢
    obtain ⟨same, worlds⟩ := lockstep.run (Reconciliation.twinned rfl) (equipped ▸ apart.lieApart)
      begins (by rw [disk, disk']; exact counterparts.stale)
    exact ⟨same.symm, worlds⟩

/-- That metrics could not be written is logged alike, whatever has been counted. -/
theorem log_writeMetrics (alike : World.Resembles s.flagFile w w') :
    (s.writeMetrics w').log.map Log.Entry.withoutDigests =
      (s.writeMetrics w).log.map Log.Entry.withoutDigests := by
  unfold writeMetrics
  cases s.metricsFile with
  | none => exact alike.log
  | some path =>
    have same := (Disk.replace_of_outline alike.outline path w.metrics.text.toUTF8
      w'.metrics.text.toUTF8 metricsMode).2
    simp only [Equipment.write]
    generalize w.disk.replace path w.metrics.text.toUTF8 metricsMode = ended at same
    generalize w'.disk.replace path w'.metrics.text.toUTF8 metricsMode = ended' at same
    obtain ⟨disk, result⟩ := ended
    obtain ⟨disk', result'⟩ := ended'
    obtain rfl : result' = result := same
    cases result' with
    | ok done => exact alike.log
    | error fault =>
      simp only [World.logEvent, List.map_append, alike.log]

/-- What is logged while an event is handled tells nothing about what is in the inputs. Where the same
is known of two worlds, the flags are the same and stay apart from the service's files, all inputs
load and render, and the same files are stale, the logs differ in the digests of what the files hold
only, and are the same in what is prominent. The requests of both calls, those to log among them, go
in lockstep as well however they are answered, as long as they are answered alike. -/
theorem log_keeps_secrets (apart : s.StateApart) (alike : World.Resembles s.flagFile w w')
    (loads : s.loadHook event inputs w = .ok loaded)
    (loads' : s.loadHook event inputs' w' = .ok loaded')
    (given : inputs'.database.isSome = inputs.database.isSome)
    (renders : (s.reconciliation loaded).IsDue →
      (∃ files, (s.reconciliation loaded).rendering = .ok files) ∧
        ∃ files, (s.reconciliation loaded').rendering = .ok files)
    (stale : SameStale ((s.reconciliation loaded).Twins (s.reconciliation loaded')) w.disk w'.disk) :
    (s.perform (.hook event flags inputs') w').log.map Log.Entry.withoutDigests =
        (s.perform (.hook event flags inputs) w).log.map Log.Entry.withoutDigests ∧
      (s.perform (.hook event flags inputs') w').log.filter Log.Entry.isProminent =
        (s.perform (.hook event flags inputs) w).log.filter Log.Entry.isProminent ∧
      (s.reconciliation loaded).program.Lockstep
        ((s.reconciliation loaded).Twins (s.reconciliation loaded')) (· = ·)
        (s.reconciliation loaded').program := by
  have trigger : loaded'.trigger = loaded.trigger := by
    rw [trigger_of_loadHook loads, trigger_of_loadHook loads', given]
  have like (due : (s.reconciliation loaded).IsDue) :
      (s.reconciliation loaded).RendersLike (s.reconciliation loaded') := by
    obtain ⟨⟨files, rendered⟩, files', rendered'⟩ := renders due
    exact .rendered rendered rendered'
  have counterparts : s.Counterparts loaded loaded' w.disk w'.disk := ⟨trigger, like, stale⟩
  have handled := (counterparts.handlesAlike apart alike).hook flags loads loads'
  have logs : (s.perform (.hook event flags inputs') w').log.map Log.Entry.withoutDigests =
      (s.perform (.hook event flags inputs) w).log.map Log.Entry.withoutDigests :=
    log_writeMetrics handled.states
  exact ⟨logs, Log.prominent_of_withoutDigests logs,
    Reconciliation.program_lockstep rfl trigger like⟩

end Setup

/-- A world in which a password is in the operator's configuration and in the deployment
environment. -/
def World.entrusted (password : String) : World where
  disk := (∅ : Disk).put ⟨true, ["c"]⟩ (.file 0o600 ("secret: " ++ password).toUTF8)
  environment := (∅ : Environment).insert Environment.deploymentVariable password
  now := ⟨"2024-01-01T00:00:00Z", Timestamp.isValid_newYear⟩

/-- Inputs with a password in the database's URI as well. -/
def Inputs.entrusted (password : String) : Inputs where
  config := some ⟨"/c"⟩
  database := some (.given ⟨"postgres://vault:" ++ password ++ "@db/vault", []⟩)

namespace Setup

/-- Whatever the password is, there is no file but the one that it is in. -/
private theorem file?_entrusted (password : String) {l : Location} (inner : l.names ≠ [])
    (other : Location.key ⟨true, ["c"]⟩ ≠ l.key) : (World.entrusted password).disk.file? l = none := by
  have absent : (World.entrusted password).disk.get? l = none := by
    unfold World.entrusted
    rw [Disk.get?_put inner, if_neg other, Disk.get?_of_inner inner]
    rfl
  unfold Disk.file?
  rw [absent]

theorem entrusted_resembles (password other : String) : World.Resembles resuming.flagFile
    (.entrusted password) (.entrusted other) where
  known := by
    have environment (value : String) : ((∅ : Environment).insert Environment.deploymentVariable
        value).erase Environment.deploymentVariable = ∅ := by
      apply SortedMap.ext
      intro name
      rw [SortedMap.get?_erase, SortedMap.get?_insert]
      split
      · rfl
      · rfl
    unfold World.known World.entrusted
    dsimp only
    rw [environment, environment, Disk.outline_put, Disk.outline_put]
    rfl
  flags := by
    rw [file?_entrusted _ (by decide +kernel) (by decide +kernel),
      file?_entrusted _ (by decide +kernel) (by decide +kernel)]
  log := rfl

/-- The inputs load, and the files can be rendered. -/
private theorem entrusted_renders (password : String)
    (handled : ((resuming.loadHook "config-changed" (.entrusted password)
      (.entrusted password)).toOption.any fun loaded =>
        (resuming.reconciliation loaded).rendering.isOk) = true) :
    ∃ loaded, resuming.loadHook "config-changed" (.entrusted password) (.entrusted password) =
      .ok loaded ∧ ∃ files, (resuming.reconciliation loaded).rendering = .ok files := by
  cases loads : resuming.loadHook "config-changed" (.entrusted password) (.entrusted password) with
  | error fault =>
    rw [loads] at handled
    cases handled
  | ok loaded =>
    rw [loads] at handled
    have rendered : (resuming.reconciliation loaded).rendering.isOk = true := handled
    cases rendering : (resuming.reconciliation loaded).rendering with
    | error fault =>
      rw [rendering] at rendered
      cases rendered
    | ok files => exact ⟨loaded, rfl, files, rendering⟩

/-- Two passwords, in the operator's configuration, in the database's URI and in the deployment
environment, leave the same log but for digests. -/
theorem log_keeps_two_passwords : resuming.StateApart ∧
    World.Resembles resuming.flagFile (.entrusted "opensesame") (.entrusted "swordfish") ∧
    ∃ loaded loaded',
      resuming.loadHook "config-changed" (.entrusted "opensesame") (.entrusted "opensesame") =
        .ok loaded ∧
      resuming.loadHook "config-changed" (.entrusted "swordfish") (.entrusted "swordfish") =
        .ok loaded' ∧
      (resuming.perform (.hook "config-changed" [Flags.baseConfigured] (.entrusted "swordfish"))
          (.entrusted "swordfish")).log.map Log.Entry.withoutDigests =
        (resuming.perform (.hook "config-changed" [Flags.baseConfigured] (.entrusted "opensesame"))
          (.entrusted "opensesame")).log.map Log.Entry.withoutDigests := by
  have apart := resuming_separate.toStateApart
  have alike := entrusted_resembles "opensesame" "swordfish"
  obtain ⟨loaded, loads, renders⟩ := entrusted_renders "opensesame" (by decide +kernel)
  obtain ⟨loaded', loads', renders'⟩ := entrusted_renders "swordfish" (by decide +kernel)
  refine ⟨apart, alike, loaded, loaded', loads, loads',
    (log_keeps_secrets apart alike loads loads' rfl (fun _ => ⟨renders, renders'⟩) ?_).1⟩
  have absent (password : String) {loaded : HookInputs} {files : ServiceFiles} {a : Artifact}
      (rendered : (resuming.reconciliation loaded).rendering = .ok files)
      (own : a = files.unit ∨ a = files.settings) : ¬ (World.entrusted password).disk.Holds a := by
    have lie : files.LieAt resuming.layout := Service.lieAt_of_render rendered
    unfold Disk.Holds
    rcases own with rfl | rfl
    · rw [lie.unit, file?_entrusted _ (by decide +kernel) (by decide +kernel)]
      exact nofun
    · rw [lie.settings, file?_entrusted _ (by decide +kernel) (by decide +kernel)]
      exact nofun
  rintro a a' (⟨-, rendered, rendered'⟩ | ⟨-, rendered, rendered'⟩)
  · exact iff_of_false (absent _ rendered (.inl rfl)) (absent _ rendered' (.inl rfl))
  · exact iff_of_false (absent _ rendered (.inr rfl)) (absent _ rendered' (.inr rfl))

end Setup

end Upkeep
