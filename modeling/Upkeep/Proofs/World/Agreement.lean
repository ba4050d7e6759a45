import Upkeep.Proofs.Disk.Nowhere
import Upkeep.Proofs.World.Pairs

/-! Worlds whose disks are related in some way. Where the paths that are used lead to the same on
related disks and what they name is replaced alike, programs are found and started alike, flags are
loaded and set alike, and so an event is handled alike. -/
namespace Upkeep

/-- A path serves alike on related disks: it leads to the same, and what it names is replaced alike. -/
structure Path.Serves (rel : Disk → Disk → Prop) (p : Path) : Prop where
  leads : ∀ {d d'}, rel d d' → p.LeadsAlike d d'
  replaced : ∀ {d d'}, rel d d' → ∀ content mode,
    EndPaired rel (d.replace p content mode) (d'.replace p content mode)

theorem Path.Clear.serves {p : Path} {spill target : Location → Prop} (clear : p.Clear spill target) :
    p.Serves (Disk.AgreeBut spill target) where
  leads agree := agree.leadsAlike clear
  replaced agree _ _ := agree.replace clear

/-- Paths that lead to the same are read alike. -/
theorem Path.LeadsAlike.read {p : Path} {d d' : Disk} (alike : p.LeadsAlike d d') :
    d'.read p = d.read p := by
  unfold Disk.read
  rw [alike.resolve]
  cases resolved : d.resolve p with
  | error fault => rfl
  | ok l => simp only [bind, Except.bind, alike.entry l resolved]

namespace World

variable {rel : Disk → Disk → Prop} {w w' : World} {name : String} {p : Path}

/-- The paths at which a program of a name is looked for. -/
def candidates (w : World) (name : String) : List Path :=
  ((w.searchDirectories?.getD []).filterMap w.expanded?).map fun directory => directory.joinText name

/-- The paths that are tried to start a program. -/
def tried (w : World) (p : Path) : List Path :=
  if p.text.toList.contains '/' || p.text.isEmpty then [p]
  else (w.searchDirectories?.getD []).map fun directory => directory.join p

/-- The paths that are used when a program of a name is looked for and what is found is started. -/
def pathsFor (w : World) (name : String) : List Path :=
  (w.candidates name).flatMap fun p => p :: w.tried p

theorem mem_pathsFor (member : p ∈ w.candidates name) : p ∈ w.pathsFor name :=
  List.mem_flatMap.mpr ⟨p, member, List.mem_cons_self⟩

theorem mem_pathsFor_of_tried {q : Path} (member : p ∈ w.candidates name) (tries : q ∈ w.tried p) :
    q ∈ w.pathsFor name :=
  List.mem_flatMap.mpr ⟨p, member, List.mem_cons_of_mem _ tries⟩

/-- What is found is one of the candidates, and can be started. -/
theorem of_find (found : w.find name = .ok p) : p ∈ w.candidates name ∧ w.isExecutable p = true := by
  unfold find at found
  unfold candidates
  cases given : w.searchDirectories? with
  | none =>
    rw [given] at found
    cases found
  | some directories =>
    rw [given] at found
    dsimp only at found
    split at found
    · rename_i first
      cases found
      exact ⟨List.mem_of_find?_eq_some first, List.find?_some first⟩
    · cases found

theorem isExecutable_of_nowhere (nowhere : Nowhere (w.disk.resolve p)) :
    w.isExecutable p = false := by
  unfold isExecutable
  generalize w.disk.resolve p = result at nowhere
  cases nowhere with
  | missing => rfl
  | noDirectory => rfl

theorem isExecutable_of_sought (sought : p.SoughtAlike w.disk w'.disk) :
    w'.isExecutable p = w.isExecutable p := by
  cases sought with
  | leads alike =>
    unfold isExecutable
    rw [alike.resolve]
    cases resolved : w.disk.resolve p with
    | error fault => rfl
    | ok l => simp only [alike.entry l resolved]
  | nowhere first second => rw [isExecutable_of_nowhere first, isExecutable_of_nowhere second]

/-- What can be started is somewhere, and so is led to alike where it is looked for alike. -/
theorem leadsAlike_of_isExecutable (sought : p.SoughtAlike w.disk w'.disk)
    (executable : w.isExecutable p = true) : p.LeadsAlike w.disk w'.disk := by
  cases sought with
  | leads alike => exact alike
  | nowhere first second =>
    rw [isExecutable_of_nowhere first] at executable
    cases executable

theorem startable_of_leads (alike : p.LeadsAlike w.disk w'.disk) (tools : w'.tools = w.tools) :
    w'.startable p = w.startable p := by
  unfold startable
  rw [alike.resolve]
  cases resolved : w.disk.resolve p with
  | error fault => rfl
  | ok l => simp only [bind, Except.bind, alike.entry l resolved, tools]

/-- Where a path leads nowhere, the next one is tried. -/
theorem startFirst_of_nowhere {otherwise : Fault} {rest : List Path}
    (nowhere : Nowhere (w.disk.resolve p)) :
    w.startFirst otherwise (p :: rest) = w.startFirst otherwise rest := by
  have passed : Nowhere (w.startable p) := nowhere.bind
  rw [startFirst]
  generalize w.startable p = result at passed
  cases passed with
  | missing => rfl
  | noDirectory => rfl

theorem startFirst_of_sought {otherwise : Fault} {paths : List Path} (tools : w'.tools = w.tools)
    (sought : ∀ p ∈ paths, p.SoughtAlike w.disk w'.disk) :
    w'.startFirst otherwise paths = w.startFirst otherwise paths := by
  induction paths generalizing otherwise with
  | nil => rfl
  | cons p rest ih =>
    obtain ⟨here, later⟩ := List.forall_mem_cons.mp sought
    cases here with
    | leads alike => simp only [startFirst, startable_of_leads alike tools, ih later]
    | nowhere first second =>
      rw [startFirst_of_nowhere first, startFirst_of_nowhere second, ih later]

/-- Two worlds with related disks that are the same in all else, but for the deployment environment. -/
structure Agree (rel : Disk → Disk → Prop) (w w' : World) : Prop where
  disk : rel w.disk w'.disk
  tools : w'.tools = w.tools
  environment : w'.environment.erase Environment.deploymentVariable =
    w.environment.erase Environment.deploymentVariable
  now : w'.now = w.now
  calls : w'.calls = w.calls
  metrics : w'.metrics = w.metrics
  log : w'.log = w.log

namespace Agree

theorem get?_environment (agree : Agree rel w w') (other : name ≠ Environment.deploymentVariable) :
    w'.environment.get? name = w.environment.get? name := by
  have same := congrArg (SortedMap.get? · name) agree.environment
  simpa only [SortedMap.get?_erase, if_neg other.symm] using same

theorem searchDirectories? (agree : Agree rel w w') :
    w'.searchDirectories? = w.searchDirectories? := by
  unfold World.searchDirectories?
  rw [agree.get?_environment (by decide)]

theorem expanded? (agree : Agree rel w w') : w'.expanded? = w.expanded? := by
  funext directory
  unfold World.expanded?
  rw [agree.get?_environment (by decide)]

/-- Programs are found alike. -/
theorem find (agree : Agree rel w w')
    (sought : ∀ p ∈ w.candidates name, p.SoughtAlike w.disk w'.disk) :
    w'.find name = w.find name := by
  have first (paths : List Path) (sought : ∀ p ∈ paths, p.SoughtAlike w.disk w'.disk) :
      paths.find? w'.isExecutable = paths.find? w.isExecutable := by
    induction paths with
    | nil => rfl
    | cons p rest ih =>
      obtain ⟨here, later⟩ := List.forall_mem_cons.mp sought
      rw [List.find?_cons, List.find?_cons, isExecutable_of_sought here, ih later]
  unfold World.find
  unfold candidates at sought
  rw [agree.searchDirectories?, agree.expanded?]
  cases given : w.searchDirectories? with
  | none => rfl
  | some directories =>
    rw [given, Option.getD_some] at sought
    dsimp only
    rw [first _ sought]

/-- Programs are located alike. That nothing is found at a path may show in the fault only where no
other path is tried. -/
theorem locate (agree : Agree rel w w') (sought : ∀ q ∈ w.tried p, q.SoughtAlike w.disk w'.disk)
    (whole : p ∈ w.tried p → p.LeadsAlike w.disk w'.disk) : w'.locate p = w.locate p := by
  unfold World.locate
  unfold tried at sought whole
  split
  · rename_i slash
    rw [if_pos slash] at whole
    rw [startable_of_leads (whole (List.mem_singleton_self p)) agree.tools]
  · rename_i plain
    rw [if_neg plain] at sought
    rw [agree.searchDirectories?, startFirst_of_sought agree.tools sought]

theorem logEvent (agree : Agree rel w w') (span : Option Log.Span) (event : Log.Event) :
    Agree rel (w.logEvent span event) (w'.logEvent span event) :=
  { agree with log := congrArg (· ++ [_]) agree.log }

theorem count (agree : Agree rel w w') (counter : Counter) :
    Agree rel (w.count counter) (w'.count counter) :=
  { agree with metrics := congrArg (Metrics.count · counter) agree.metrics }

/-- Programs are started alike. -/
theorem start (agree : Agree rel w w') (sought : ∀ q ∈ w.tried p, q.SoughtAlike w.disk w'.disk)
    (whole : p ∈ w.tried p → p.LeadsAlike w.disk w'.disk) (arguments : List String) :
    EndPaired (Agree rel) (w.start p arguments) (w'.start p arguments) := by
  unfold World.start
  rw [agree.locate sought whole]
  split
  · exact ⟨rfl, agree⟩
  · split
    · exact ⟨rfl, agree⟩
    · split
      · exact ⟨rfl, agree⟩
      · exact ⟨rfl, { agree with calls := congrArg (· ++ [_]) agree.calls }⟩

/-- Files are replaced alike. -/
theorem write (agree : Agree rel w w') (serves : p.Serves rel) (content : ByteArray) (mode : Nat) :
    EndPaired (Agree rel) (Equipment.write p content mode w) (Equipment.write p content mode w') := by
  obtain ⟨same, disks⟩ := serves.replaced agree.disk content mode
  rw [Equipment.write_eq, Equipment.write_eq]
  exact ⟨same, { agree with disk := disks }⟩

end Agree

end World

namespace FlagFile

variable {f : FlagFile} {rel : Disk → Disk → Prop} {d d' : Disk}

/-- Flags are loaded alike. -/
theorem load_of_leads (alike : f.path.LeadsAlike d d') : f.load d' = f.load d := by
  unfold load Disk.readText
  rw [alike.read]

/-- Flags are set alike. -/
theorem set_of_serves (serves : f.path.Serves rel) (go : rel d d') (now : Timestamp) (name : String)
    (value : Bool) : EndPaired rel (f.set now name value d) (f.set now name value d') := by
  unfold set
  rw [load_of_leads (serves.leads go)]
  cases f.load d with
  | error fault => exact ⟨rfl, go⟩
  | ok document =>
    dsimp only
    split
    · exact ⟨rfl, go⟩
    · obtain ⟨after, after', result, ran, ran', disks⟩ := (serves.replaced go
        (Flags.Document.print ⟨document.flags.insert name value, some now⟩).toUTF8 mode).parts
      rw [ran, ran']
      cases result with
      | error fault => exact ⟨rfl, disks⟩
      | ok done => exact ⟨rfl, disks⟩

end FlagFile

/-- Two worlds agree, and what is in the environment of the first is still the same. -/
structure World.AgreeIn (rel : Disk → Disk → Prop) (own : Environment) (w w' : World) : Prop
    extends World.Agree rel w w' where
  unchanged : w.environment = own

theorem World.tried_congr {w w' : World} (same : w'.environment = w.environment) (p : Path) :
    w'.tried p = w.tried p := by
  unfold tried searchDirectories?
  rw [same]

theorem World.AgreeIn.pairing (rel : Disk → Disk → Prop) (own : Environment) :
    World.Pairing (World.AgreeIn rel own) where
  logEvent agree span event := ⟨agree.logEvent span event, agree.unchanged⟩
  count agree counter := ⟨agree.count counter, agree.unchanged⟩

namespace Equipment

variable {e : Equipment} {rel : Disk → Disk → Prop} {w : World} {p : Path}

/-- A program is started alike in worlds that agree, if it is looked for alike. -/
private theorem startsAlike
    (sought : ∀ {d d'}, rel d d' → ∀ q ∈ w.tried p, q.SoughtAlike d d')
    (whole : ∀ {d d'}, rel d d' → p ∈ w.tried p → p.LeadsAlike d d') :
    World.StartsAlike (World.AgreeIn rel w.environment) p := by
  intro v v' agree arguments
  have tried := World.tried_congr agree.unchanged p
  obtain ⟨same, agrees⟩ := agree.start (tried ▸ sought agree.disk) (tried ▸ whole agree.disk) arguments
  obtain ⟨calls, left⟩ := v.start_leaves p arguments
  refine ⟨same, agrees, ?_⟩
  rw [left]
  exact agree.unchanged

private theorem startsAlike_of_serves (serve : ∀ q ∈ w.tried p, q.Serves rel) :
    World.StartsAlike (World.AgreeIn rel w.environment) p :=
  startsAlike (fun go q member => .leads ((serve q member).leads go))
    fun go member => (serve p member).leads go

/-- Equipment answers alike in worlds that agree. -/
theorem pairs_of_agree (state : e.flags.path.Serves rel)
    (manager : ∀ q ∈ w.tried e.manager.program, q.Serves rel)
    (reporter : ∀ path, e.reporter = .tool path → ∀ q ∈ w.tried path, q.Serves rel) :
    e.Pairs (World.AgreeIn rel w.environment) where
  toPairing := World.AgreeIn.pairing rel w.environment
  observe agree :=
    ⟨{ agree.toAgree with metrics := congrArg (Metrics.observe · _) agree.metrics }, agree.unchanged⟩
  manager := startsAlike_of_serves manager
  reporter path given := startsAlike_of_serves (reporter path given)
  load agree := FlagFile.load_of_leads (state.leads agree.disk)
  set {v v'} agree name value := by
    obtain ⟨d, d', result, set, set', disks⟩ :=
      (FlagFile.set_of_serves state agree.disk v.now name value).parts
    rw [← agree.now] at set'
    exact ⟨d, d', result, set, set', { agree.toAgree with disk := disks }, agree.unchanged⟩

/-- As long as nothing is written, it tells alike in worlds that agree, even if some programs are
missing from them in different ways. -/
theorem tells_of_agree {d d' : Disk} (state : e.flags.path.LeadsAlike d d')
    (reporter : ∀ path, e.reporter = .tool path → path.LeadsAlike d d' ∧
      ∀ q ∈ w.tried path, q.SoughtAlike d d') :
    e.Tells (World.AgreeIn (fun own own' => own = d ∧ own' = d') w.environment) where
  toPairing := World.AgreeIn.pairing _ w.environment
  observe agree :=
    ⟨{ agree.toAgree with metrics := congrArg (Metrics.observe · _) agree.metrics }, agree.unchanged⟩
  reporter path given := by
    obtain ⟨leads, sought⟩ := reporter path given
    refine startsAlike ?_ ?_
    · rintro _ _ ⟨rfl, rfl⟩
      exact sought
    · rintro _ _ ⟨rfl, rfl⟩ -
      exact leads
  load {v v'} agree := by
    obtain ⟨own, own'⟩ := agree.disk
    rw [own, own']
    exact FlagFile.load_of_leads state

/-- So it answers requests that reach for no files but those that serve alike. -/
theorem answer_of_within {twins : Artifact → Artifact → Prop} {own : Environment} {r : Request}
    {v v' : World} (pairs : e.Pairs (World.AgreeIn rel own))
    (serve : ∀ a a', twins a a' → a.path.Serves rel) (within : r.Within twins)
    (agree : World.AgreeIn rel own v v') :
    EndPaired (World.AgreeIn rel own) (e.answer r v) (e.answer r v') := by
  cases within with
  | @read a a' pair =>
    exact ⟨((serve a a' pair).leads agree.disk).read, agree⟩
  | @write a a' pair =>
    obtain ⟨same, agrees⟩ := agree.write (serve a a' pair) a.bytes a.mode
    have unchanged : (write a.path a.bytes a.mode v).1.environment = own := by
      rw [write_eq]
      exact agree.unchanged
    exact ⟨same, agrees, unchanged⟩
  | log event => exact ⟨rfl, pairs.logEvent agree e.span event⟩
  | shared shared => exact pairs.answer agree shared

end Equipment

/-- A reconciliation whose files serve alike comes to the same in worlds that agree. -/
theorem Reconciliation.run_agree (r : Reconciliation) {e : Equipment} {rel : Disk → Disk → Prop}
    {own : Environment} {v v' : World} (pairs : e.Pairs (World.AgreeIn rel own))
    (serve : ∀ a a', r.Twins r a a' → a.path.Serves rel) (agree : World.AgreeIn rel own v v') :
    (r.program.run e.host v').1 = (r.program.run e.host v).1 ∧
      World.AgreeIn rel own (r.program.run e.host v).2 (r.program.run e.host v').2 := by
  have lockstep := program_lockstep (r := r) rfl rfl fun _ => RendersLike.refl r
  refine (lockstep.inTurn none).run_pair (World.AgreeIn rel own) ?_ agree
  intro last q state state' within agree
  obtain ⟨same, agrees⟩ := Equipment.answer_of_within pairs serve within agree
  exact ⟨same, agrees⟩

namespace Setup

variable {s : Setup} {event : String} {inputs : Inputs} {loaded : HookInputs}
  {rel : Disk → Disk → Prop} {w w' : World} {p : Path}

/-- The paths at which the service manager and the way to report are looked for and started. -/
def programPaths (s : Setup) (w : World) : List Path :=
  (match s.systemctl with
    | some path => w.tried path
    | none => w.pathsFor Systemctl.name) ++ w.pathsFor Log.Event.statusTool

theorem tried_of_discover {manager : Systemctl}
    (found : Systemctl.discover w s.systemctl = .ok manager) (member : p ∈ w.tried manager.program) :
    p ∈ s.programPaths w := by
  unfold Systemctl.discover at found
  unfold programPaths
  cases given : s.systemctl with
  | some path =>
    rw [given] at found
    cases found
    exact List.mem_append_left _ member
  | none =>
    rw [given] at found
    dsimp only at found
    refine List.mem_append_left _ ?_
    split at found
    · rename_i path there
      cases found
      exact World.mem_pathsFor_of_tried (World.of_find there).1 member
    · cases found

theorem find_of_reporter {path : Path} (found : (Reporter.discover w).2 = .tool path) :
    w.find Log.Event.statusTool = .ok path := by
  unfold Reporter.discover at found
  split at found
  · rename_i there
    cases found
    exact there
  · cases found

theorem tried_of_reporter {path : Path} (found : (Reporter.discover w).2 = .tool path)
    (member : p ∈ w.tried path) : p ∈ s.programPaths w :=
  List.mem_append_right _
    (World.mem_pathsFor_of_tried (World.of_find (find_of_reporter found)).1 member)

/-- The service manager is found alike, if it is looked for alike. -/
theorem discover_of_sought (agree : World.Agree rel w w')
    (programs : ∀ p ∈ s.programPaths w, p.SoughtAlike w.disk w'.disk) :
    Systemctl.discover w' s.systemctl = Systemctl.discover w s.systemctl := by
  unfold Systemctl.discover
  unfold programPaths at programs
  cases given : s.systemctl with
  | some path => rfl
  | none =>
    rw [given] at programs
    dsimp only
    rw [agree.find fun p member => programs p (List.mem_append_left _ (World.mem_pathsFor member))]

/-- What handling an event relies on holds of worlds that agree, if all that it uses serves alike. -/
theorem handlesAlike_of_agree (agree : World.Agree rel w w') (state : s.stateFile.Serves rel)
    (programs : ∀ p ∈ s.programPaths w, p.Serves rel)
    (files : (s.reconciliation loaded).IsDue →
      s.layout.unitPath.Serves rel ∧ s.layout.configPath.Serves rel) :
    s.HandlesAlike loaded loaded (World.AgreeIn rel w.environment) w w' where
  go := ⟨agree, rfl⟩
  logEvent := (World.AgreeIn.pairing rel w.environment).logEvent
  trigger := rfl
  manager := discover_of_sought agree fun p member => .leads ((programs p member).leads agree.disk)
  reporter := agree.find fun p member => .leads
    ((programs p (List.mem_append_right _ (World.mem_pathsFor member))).leads agree.disk)
  load := FlagFile.load_of_leads (state.leads agree.disk)
  run e equipped manager reporter begins := by
    refine Reconciliation.run_agree _ (Equipment.pairs_of_agree ?_ ?_ ?_) ?_ begins
    · rw [equipped]
      exact state
    · exact fun q member => programs q (tried_of_discover manager member)
    · intro path given q member
      rw [← reporter] at given
      exact programs q (tried_of_reporter given member)
    · rintro a a' (⟨due, rendered, rendered'⟩ | ⟨due, rendered, rendered'⟩)
      · have lie : ServiceFiles.LieAt _ s.layout := Service.lieAt_of_render rendered
        rw [lie.unit]
        exact (files due).1
      · have lie : ServiceFiles.LieAt _ s.layout := Service.lieAt_of_render rendered
        rw [lie.settings]
        exact (files due).2

/-- For an event for which nothing is done, it is enough that programs are looked for alike. -/
theorem handlesAlike_of_idle (agree : World.Agree rel w w') (idle : ¬ (s.reconciliation loaded).IsDue)
    (state : s.stateFile.LeadsAlike w.disk w'.disk)
    (programs : ∀ p ∈ s.programPaths w, p.SoughtAlike w.disk w'.disk) :
    s.HandlesAlike loaded loaded
      (World.AgreeIn (fun d d' => d = w.disk ∧ d' = w'.disk) w.environment) w w' where
  go := ⟨{ agree with disk := ⟨rfl, rfl⟩ }, rfl⟩
  logEvent := (World.AgreeIn.pairing _ w.environment).logEvent
  trigger := rfl
  manager := discover_of_sought agree programs
  reporter := agree.find fun p member => programs p (List.mem_append_right _ (World.mem_pathsFor member))
  load := FlagFile.load_of_leads state
  run e equipped manager reporter begins := by
    refine Reconciliation.run_of_idle _ idle (Equipment.tells_of_agree ?_ ?_) begins
    · rw [equipped]
      exact state
    · intro path given
      rw [← reporter] at given
      refine ⟨?_, fun q member => programs q (tried_of_reporter given member)⟩
      obtain ⟨member, executable⟩ := World.of_find (find_of_reporter given)
      exact World.leadsAlike_of_isExecutable
        (programs path (List.mem_append_right _ (World.mem_pathsFor member))) executable

end Setup

namespace Inputs

/-- The paths of the files that inputs are read from. -/
def paths (i : Inputs) : List Path :=
  i.config.toList ++ i.environment.toList ++
    match i.database with
    | some (.file path) => [path]
    | _ => []

theorem mem_paths_of_config {i : Inputs} {p : Path} (given : i.config = some p) : p ∈ i.paths := by
  simp [paths, given]

theorem mem_paths_of_environment {i : Inputs} {p : Path} (given : i.environment = some p) :
    p ∈ i.paths := by
  simp [paths, given]

theorem mem_paths_of_database {i : Inputs} {p : Path} (given : i.database = some (.file p)) :
    p ∈ i.paths := by
  simp [paths, given]

variable {i : Inputs} {rel : Disk → Disk → Prop} {w w' : World}

/-- Texts are loaded alike. -/
private theorem loadText_of_leads {p : Path} {d d' : Disk} (alike : p.LeadsAlike d d') :
    loadText d' p = loadText d p := by
  unfold loadText Disk.readText
  rw [alike.read]

theorem loadDatabase_agree (serve : ∀ p ∈ i.paths, p.Serves rel) (go : rel w.disk w'.disk) :
    i.loadDatabase w' = i.loadDatabase w := by
  unfold loadDatabase
  cases given : i.database with
  | none => rfl
  | some source =>
    cases source with
    | file path =>
      have alike := (serve path (mem_paths_of_database given)).leads go
      simp only [Database.load, loadText_of_leads alike]
    | given database => rfl

theorem loadEnvironment_agree (serve : ∀ p ∈ i.paths, p.Serves rel) (go : rel w.disk w'.disk)
    (same : w'.environment = w.environment) : i.loadEnvironment w' = i.loadEnvironment w := by
  unfold loadEnvironment
  rw [same]
  cases given : i.environment with
  | none => rfl
  | some path =>
    have alike := (serve path (mem_paths_of_environment given)).leads go
    simp only [Environment.load, alike.read]

theorem loadConfig_agree (serve : ∀ p ∈ i.paths, p.Serves rel) (go : rel w.disk w'.disk) :
    i.loadConfig w' = i.loadConfig w := by
  unfold loadConfig
  cases given : i.config with
  | none => rfl
  | some path =>
    have alike := (serve path (mem_paths_of_config given)).leads go
    simp only [Config.load, loadText_of_leads alike]

end Inputs

namespace Setup

variable {s : Setup} {event : String} {inputs : Inputs} {rel : Disk → Disk → Prop} {w w' : World}

/-- What an event works with is loaded alike. -/
theorem loadHook_agree (serve : ∀ p ∈ inputs.paths, p.Serves rel) (go : rel w.disk w'.disk)
    (same : w'.environment = w.environment) :
    s.loadHook event inputs w' = s.loadHook event inputs w := by
  unfold loadHook
  rw [Inputs.loadDatabase_agree serve go, Inputs.loadEnvironment_agree serve go same,
    Inputs.loadConfig_agree serve go]

/-- An event for which the same is loaded is handled alike. -/
theorem hook_agree (agree : World.Agree rel w w')
    (same : s.loadHook event inputs w' = s.loadHook event inputs w) (state : s.stateFile.Serves rel)
    (programs : ∀ p ∈ s.programPaths w, p.Serves rel)
    (files : event ≠ s.pollEvent → s.layout.unitPath.Serves rel ∧ s.layout.configPath.Serves rel)
    (flags : List String) : EndPaired (World.Agree rel) (s.hook event flags inputs w)
      (s.hook event flags inputs w') := by
  cases loads : s.loadHook event inputs w with
  | error fault =>
    rw [loads] at same
    simp only [hook, loads, same]
    exact ⟨rfl, agree⟩
  | ok loaded =>
    have alike := handlesAlike_of_agree agree state programs fun due =>
      files (loads_of_due loads due).1
    obtain ⟨result, worlds⟩ := alike.hook flags loads (same.trans loads)
    exact ⟨result, worlds.toAgree⟩

end Setup

end Upkeep
