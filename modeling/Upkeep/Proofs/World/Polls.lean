import Upkeep.Proofs.World.Agreement
import Upkeep.Proofs.World.Genuine

/-! Status polls are independent of the inputs. A poll reads none of them, so it comes to the same
whatever is in them and whether they are there at all; it gives no command and leaves the service's
files and the flags alone. So polls may be inserted anywhere among other events: these come to the same,
but for the file of the metrics, as long as they stay clear of what is made for that file. -/
namespace Upkeep

/-- The places of the files that inputs are read from. -/
def Inputs.At (i : Inputs) (l : Location) : Prop :=
  ∃ p ∈ i.paths, l = p.place

instance (i : Inputs) : DecidablePred i.At :=
  fun l => inferInstanceAs (Decidable (∃ p ∈ i.paths, l = p.place))

/-- Whatever is done to a disk leaves its directories alone. -/
theorem Change.passable {s : Service} {files : ServiceFiles} {kept : FlagFile} {d d' : Disk}
    (change : Change s files kept d d') : Disk.Passable d d' := by
  cases change with
  | same => exact ⟨fun _ => id, fun _ => id⟩
  | unit replacing => exact replacing.passable
  | settings replacing => exact replacing.passable
  | flag touch loaded replacing => exact replacing.passable

namespace Setup

variable {s : Setup} {event : String} {flags : List String} {inputs : Inputs} {w w' : World}
  {l : Location}

theorem loadHook_of_poll (s : Setup) (inputs : Inputs) (w : World) :
    s.loadHook s.pollEvent inputs w = .ok ⟨⟨s.pollEvent, inputs.database.isSome⟩, ∅, ∅⟩ :=
  if_pos rfl

/-- A poll leaves the files alone and gives no command. -/
theorem alike_of_poll (s : Setup) (flags : List String) (inputs : Inputs) (w : World) :
    w.Alike (s.hook s.pollEvent flags inputs w).1 := by
  rcases s.alike_or_reconciles s.pollEvent flags inputs w with
    alike | ⟨loaded, database, operator, files, reconciles⟩
  · exact alike
  · exact absurd rfl reconciles.notPoll

/-- Handling an event removes no directory. -/
theorem directory_hook (directory : w.disk.get? l = some .directory) :
    (s.hook event flags inputs w).1.disk.get? l = some .directory := by
  rcases s.alike_or_reconciles event flags inputs w with
    alike | ⟨loaded, database, operator, files, reconciles⟩
  · rw [alike.disk]
    exact directory
  · let kept (d : Disk) := d.get? l = some .directory
    have keeps (d d' : Disk) (change : Change s.service files s.flagFile d d') : kept d → kept d' :=
      change.passable.directories l
    exact reconciles.disk keeps directory

end Setup

/-- One invocation of the maintainer: the event that it handles, and all else that it finds but the
files. -/
structure Invocation where
  event : String
  flags : List String := []
  inputs : Inputs := {}
  now : Timestamp
  environment : Environment := ∅
  tools : SortedMap Tool := ∅

/-- The world in which an invocation starts, with what is on disk by then. -/
def Invocation.world (i : Invocation) (disk : Disk) : World where
  disk
  tools := i.tools
  environment := i.environment
  now := i.now

/-- What may happen to a disk: the maintainer is invoked, or a file is replaced or removed by others. -/
inductive Happening where
  | invoke (i : Invocation)
  | replace (path : Path) (content : ByteArray) (mode : Nat)
  | remove (path : Path)

/-- What came of an invocation: its result, the programs that it called, and the disk after it. -/
structure Occurrence where
  invocation : Invocation
  result : Except RunFault Unit
  calls : List Call
  disk : Disk

namespace Setup

variable {s : Setup} {d d' : Disk} {l : Location}

/-- What comes of an invocation. -/
def invoke (s : Setup) (i : Invocation) (d : Disk) : Occurrence :=
  let ended := s.hook i.event i.flags i.inputs (i.world d)
  ⟨i, ended.2, ended.1.calls, (s.perform (.hook i.event i.flags i.inputs) (i.world d)).disk⟩

/-- What comes of all invocations when things happen one after the other. -/
def history (s : Setup) : List Happening → Disk → List Occurrence
  | [], _ => []
  | .invoke i :: rest, d => s.invoke i d :: s.history rest (s.invoke i d).disk
  | .replace path content mode :: rest, d => s.history rest (d.replace path content mode).1
  | .remove path :: rest, d => s.history rest (d.remove path)

/-- Whether an invocation is a poll. -/
def isPoll (s : Setup) (i : Invocation) : Bool :=
  i.event == s.pollEvent

/-- What happens without polls. -/
def withoutPolls (s : Setup) (happenings : List Happening) : List Happening :=
  happenings.filter fun
    | .invoke i => !s.isPoll i
    | _ => true

/-- The places that may hold something else once metrics have been written: that of the metrics, and
those of directories that are still to be made for them. -/
def Spills (s : Setup) (d : Disk) (l : Location) : Prop :=
  ∃ path ∈ s.metricsFile, d.Changeable path l

/-- The place of the metrics. -/
def MetricsAt (s : Setup) (l : Location) : Prop :=
  ∃ path ∈ s.metricsFile, l = path.place

instance (s : Setup) (d : Disk) : DecidablePred (s.Spills d) :=
  fun l => inferInstanceAs (Decidable (∃ path ∈ s.metricsFile, d.Changeable path l))

instance (s : Setup) : DecidablePred s.MetricsAt :=
  fun l => inferInstanceAs (Decidable (∃ path ∈ s.metricsFile, l = path.place))

/-- The paths that are used when something happens. -/
def usedPaths (s : Setup) : Happening → List Path
  | .invoke i => s.stateFile :: s.layout.unitPath :: s.layout.configPath ::
      (i.inputs.paths ++ s.programPaths (i.world ∅))
  | .replace path _ _ => [path]
  | .remove path => [path]

/-- Two occurrences of one invocation that differ in nothing but what metrics leave on the disk. -/
structure SameBut (s : Setup) (start : Disk) (o o' : Occurrence) : Prop where
  invocation : o'.invocation = o.invocation
  result : o'.result = o.result
  calls : o'.calls = o.calls
  flags : s.flagFile.load o'.disk = s.flagFile.load o.disk
  files : ∀ l, l.Proper → ¬ s.MetricsAt l → o'.disk.file? l = o.disk.file? l
  places : ∀ l, l.Proper → ¬ s.Spills start l → o'.disk.get? l = o.disk.get? l

/-- Two disks on which the same has happened, but for polls that have happened on one of them only. -/
structure Apart (s : Setup) (start d d' : Disk) : Prop where
  agree : Disk.AgreeBut (s.Spills start) s.MetricsAt d d'
  kept : ∀ l, start.get? l = some .directory → d.get? l = some .directory
  kept' : ∀ l, start.get? l = some .directory → d'.get? l = some .directory

namespace Apart

variable {start : Disk} {w w' : World} {i : Invocation} {p : Path} {content : ByteArray} {mode : Nat}

theorem symm (apart : s.Apart start d d') : s.Apart start d' d :=
  ⟨apart.agree.symm, apart.kept', apart.kept⟩

/-- What has been counted may be written to one of the disks only. -/
theorem writeMetrics_left (apart : s.Apart start w.disk d') :
    s.Apart start (s.writeMetrics w).disk d' := by
  cases given : s.metricsFile with
  | none =>
    have same : s.writeMetrics w = w := by
      unfold writeMetrics
      rw [given]
    rw [same]
    exact apart
  | some path =>
    have disk : (s.writeMetrics w).disk =
        (w.disk.replace path w.metrics.text.toUTF8 metricsMode).1 := by
      unfold writeMetrics
      rw [given]
      dsimp only
      rw [Equipment.write_eq]
      cases (w.disk.replace path w.metrics.text.toUTF8 metricsMode).2 with
      | error fault => rfl
      | ok done => rfl
    rw [disk]
    refine ⟨apart.agree.spill_left (fun l changeable => ?_) ⟨path, given, rfl⟩, fun l directory => ?_,
      apart.kept'⟩
    · exact ⟨path, given, changeable.1, fun directory => changeable.2 (apart.kept l directory)⟩
    · exact Disk.directory_replace path _ _ (apart.kept l directory)

theorem writeMetrics_right (apart : s.Apart start d w.disk) :
    s.Apart start d (s.writeMetrics w).disk :=
  apart.symm.writeMetrics_left.symm

/-- A poll may happen on one of the disks only. -/
theorem poll (apart : s.Apart start d d') (isPoll : s.isPoll i = true) :
    s.Apart start d (s.invoke i d').disk := by
  have poll : i.event = s.pollEvent := beq_iff_eq.mp isPoll
  have alike := s.alike_of_poll i.flags i.inputs (i.world d')
  rw [← poll] at alike
  refine writeMetrics_right (w := (s.hook i.event i.flags i.inputs (i.world d')).1) ?_
  rw [alike.disk]
  exact apart

/-- What others replace on both disks, clear of the metrics, leaves them as they are to each other. -/
theorem replace (apart : s.Apart start d d') (clear : p.Clear (s.Spills start) s.MetricsAt) :
    s.Apart start (d.replace p content mode).1 (d'.replace p content mode).1 where
  agree := (apart.agree.replace clear).states
  kept l directory := Disk.directory_replace p content mode (apart.kept l directory)
  kept' l directory := Disk.directory_replace p content mode (apart.kept' l directory)

theorem remove (apart : s.Apart start d d') (clear : p.Clear (s.Spills start) s.MetricsAt) :
    s.Apart start (d.remove p) (d'.remove p) where
  agree := apart.agree.remove clear
  kept l directory := Disk.directory_remove (apart.kept l directory)
  kept' l directory := Disk.directory_remove (apart.kept' l directory)

/-- What is clear of the metrics serves alike for all that is left apart. -/
private theorem programPaths_world (i : Invocation) (d : Disk) :
    s.programPaths (i.world d) = s.programPaths (i.world ∅) :=
  rfl

/-- An invocation that is clear of the metrics comes to the same on both disks. -/
theorem invoke (apart : s.Apart start d d')
    (clear : ∀ p ∈ s.usedPaths (.invoke i), p.Clear (s.Spills start) s.MetricsAt) :
    s.SameBut start (s.invoke i d) (s.invoke i d') ∧
      s.Apart start (s.invoke i d).disk (s.invoke i d').disk := by
  have serve (p : Path) (used : p ∈ s.usedPaths (.invoke i)) :
      p.Serves (Disk.AgreeBut (s.Spills start) s.MetricsAt) := (clear p used).serves
  unfold usedPaths at serve
  simp only [List.mem_cons, List.mem_append] at serve
  have agree : World.Agree (Disk.AgreeBut (s.Spills start) s.MetricsAt) (i.world d) (i.world d') :=
    ⟨apart.agree, rfl, rfl, rfl, rfl, rfl, rfl⟩
  have loads : s.loadHook i.event i.inputs (i.world d') = s.loadHook i.event i.inputs (i.world d) :=
    loadHook_agree (fun p member => serve p (by simp [member])) apart.agree rfl
  obtain ⟨result, worlds⟩ := hook_agree agree loads (serve _ (.inl rfl))
    (fun p member => serve p (by simp [programPaths_world i d ▸ member]))
    (fun _ => ⟨serve _ (by simp), serve _ (by simp)⟩) i.flags
  have after : s.Apart start (s.invoke i d).disk (s.invoke i d').disk := by
    refine writeMetrics_left (w := (s.hook i.event i.flags i.inputs (i.world d)).1)
      (writeMetrics_right (w := (s.hook i.event i.flags i.inputs (i.world d')).1) ⟨worlds.disk, ?_, ?_⟩)
    · exact fun l directory => directory_hook (apart.kept l directory)
    · exact fun l directory => directory_hook (apart.kept' l directory)
  refine ⟨⟨rfl, result, worlds.calls, ?_, after.agree.files, after.agree.same⟩, after⟩
  exact FlagFile.load_of_leads ((serve _ (.inl rfl)).leads after.agree)

end Apart

/-- Where all else is clear of the metrics, polls may be inserted anywhere. -/
theorem history_apart {start : Disk} (happenings : List Happening)
    (clear : ∀ h ∈ s.withoutPolls happenings, ∀ p ∈ s.usedPaths h,
      p.Clear (s.Spills start) s.MetricsAt) (apart : s.Apart start d d') :
    List.Forall₂ (s.SameBut start) (s.history (s.withoutPolls happenings) d)
      ((s.history happenings d').filter fun o => !s.isPoll o.invocation) := by
  induction happenings generalizing d d' with
  | nil => exact .nil
  | cons h rest ih =>
    cases h with
    | invoke i =>
      rw [history, List.filter_cons]
      cases poll : s.isPoll i with
      | true =>
        have dropped : s.withoutPolls (.invoke i :: rest) = s.withoutPolls rest := by
          simp [withoutPolls, poll]
        rw [dropped] at clear ⊢
        have other : (!s.isPoll (s.invoke i d').invocation) = false := by
          change (!s.isPoll i) = false
          rw [poll]
          rfl
        rw [other]
        exact ih clear (apart.poll poll)
      | false =>
        have kept : s.withoutPolls (.invoke i :: rest) = .invoke i :: s.withoutPolls rest := by
          simp [withoutPolls, poll]
        rw [kept] at clear ⊢
        have own : (!s.isPoll (s.invoke i d').invocation) = true := by
          change (!s.isPoll i) = true
          rw [poll]
          rfl
        obtain ⟨same, after⟩ := apart.invoke (clear _ List.mem_cons_self)
        rw [own, history]
        exact .cons same (ih (fun h member => clear h (List.mem_cons_of_mem _ member)) after)
    | replace path content mode =>
      exact ih (fun h member => clear h (List.mem_cons_of_mem _ member))
        (apart.replace (clear _ List.mem_cons_self path List.mem_cons_self))
    | remove path =>
      exact ih (fun h member => clear h (List.mem_cons_of_mem _ member))
        (apart.remove (clear _ List.mem_cons_self path List.mem_cons_self))

/-- Polls are independent of the inputs. What is in the files that inputs are read from, whether they
are there, and the deployment environment make no difference to a poll, as long as none of these files
lies on the way to the flags or to a program; a poll gives no command and changes no file but that of
the metrics; and wherever polls are inserted among other events, these come to the same, as long as what
they use is clear of the metrics and of the directories that are still to be made for them. -/
theorem polls_independent (s : Setup) :
    (∀ (flags : List String) (inputs : Inputs) (w w' : World),
      World.Agree (Disk.AgreeOff inputs.At) w w' → s.stateFile.Avoids inputs.At →
        (∀ p ∈ s.programPaths w, p.Ignores inputs.At w.disk ∧ p.Ignores inputs.At w'.disk) →
          let ended := s.hook s.pollEvent flags inputs w
          let ended' := s.hook s.pollEvent flags inputs w'
          ended'.2 = ended.2 ∧ ended'.1.calls = ended.1.calls ∧ ended'.1.log = ended.1.log) ∧
    (∀ (flags : List String) (inputs : Inputs) (w : World),
      let after := s.perform (.hook s.pollEvent flags inputs) w
      after.commands = w.commands ∧
        ∀ l, l.Proper → ¬ s.MetricsAt l → after.disk.file? l = w.disk.file? l) ∧
    ∀ (happenings : List Happening) (start : Disk), start.Grounded →
      (∀ h ∈ s.withoutPolls happenings, ∀ p ∈ s.usedPaths h,
        p.Clear (s.Spills start) s.MetricsAt) →
          List.Forall₂ (s.SameBut start) (s.history (s.withoutPolls happenings) start)
            ((s.history happenings start).filter fun o => !s.isPoll o.invocation) := by
  refine ⟨fun flags inputs w w' agree state programs => ?_, fun flags inputs w => ?_,
    fun happenings start grounded clear => ?_⟩
  · have idle : ¬ (s.reconciliation ⟨⟨s.pollEvent, inputs.database.isSome⟩, ∅, ∅⟩).IsDue :=
      fun due => due.notPoll rfl
    have alike := handlesAlike_of_idle agree idle (agree.disk.along state).leadsAlike
      fun p member => agree.disk.sought (programs p member).1 (programs p member).2
    obtain ⟨result, worlds⟩ := alike.hook flags (s.loadHook_of_poll inputs w)
      (s.loadHook_of_poll inputs w')
    exact ⟨result, worlds.calls, worlds.log⟩
  · have alike := s.alike_of_poll flags inputs w
    refine ⟨(s.commands_writeMetrics _).trans alike.commands, fun l proper other => ?_⟩
    have kept := file?_writeMetrics (s := s) (w := (s.hook s.pollEvent flags inputs w).1) proper
      fun path given same => other ⟨path, given, same⟩
    rw [alike.disk] at kept
    exact kept
  · have same : Disk.AgreeBut (s.Spills start) s.MetricsAt start start :=
      ⟨.refl start, fun _ _ _ => rfl, grounded, grounded⟩
    exact history_apart happenings clear ⟨same, fun _ => id, fun _ => id⟩

end Setup

/-- A world with a program to report the status with and one for the service. -/
def World.polled : World where
  disk := (((∅ : Disk).replace ⟨"/bin/status-set"⟩ .empty 0o755).1.replace
    ⟨"/bin/systemctl"⟩ .empty 0o755).1
  tools := ((∅ : SortedMap Tool).insert "/bin/status-set" {}).insert "/bin/systemctl" {}
  environment := (∅ : Environment).insert searchVariable "/bin"
  now := ⟨"2024-01-01T00:00:00Z", Timestamp.isValid_newYear⟩

/-- The same world, with a database that cannot be read and in another deployment environment. -/
def World.polledInDisorder : World :=
  { World.polled with
    disk := World.polled.disk.put (Path.place ⟨"/db"⟩) (.file 0o600 ⟨#[0xff]⟩)
    environment := World.polled.environment.insert Environment.deploymentVariable "staging" }

/-- A world without programs, in which there are the variables of a service only. -/
def World.bare : World where
  disk := ((∅ : Disk).replace ⟨"service.env"⟩ .empty 0o600).1
  now := ⟨"2024-01-01T00:00:00Z", Timestamp.isValid_newYear⟩

/-- The same world, with a database. -/
def World.obstructed : World :=
  { World.bare with disk := World.bare.disk.put (Path.place ⟨"state"⟩) (.file 0o600 .empty) }

theorem World.grounded_polled : World.polled.disk.Grounded :=
  Disk.grounded_replace (Disk.grounded_replace Disk.grounded_empty _ _ _) _ _ _

namespace Setup

/-- A setup that keeps its flags in the directory of the metrics. -/
def polling : Setup where
  serviceName := "v"
  baseDirectory := ⟨"/"⟩
  unitDirectory := ⟨"/"⟩
  stateFile := ⟨"/m/flags"⟩
  systemctl := some ⟨"/bin/systemctl"⟩
  metricsFile := some ⟨"/m/metrics"⟩

/-- The inputs of all its events. -/
def pollingInputs : Inputs where
  database := some (.file ⟨"/db"⟩)

/-- The invocation for an event in that world. -/
def pollingTurn (event : String) : Happening :=
  .invoke
    { event
      flags := [Flags.baseConfigured]
      inputs := pollingInputs
      now := World.polled.now
      environment := World.polled.environment
      tools := World.polled.tools }

/-- Polls before, between and after other events. -/
def pollingTurns : List Happening :=
  [pollingTurn "update-status", .replace ⟨"/db"⟩ "primary: postgres://db/vault".toUTF8 0o600,
    pollingTurn "update-status", pollingTurn "config-changed", pollingTurn "update-status",
    .remove ⟨"/db"⟩, pollingTurn "update-status", pollingTurn "config-changed"]

/-- Polls make no difference there, and a database makes none to them. -/
theorem polling_independent :
    (World.Agree (Disk.AgreeOff pollingInputs.At) World.polled World.polledInDisorder ∧
      polling.stateFile.Avoids pollingInputs.At ∧
      (∀ p ∈ polling.programPaths World.polled, p.Ignores pollingInputs.At World.polled.disk ∧
        p.Ignores pollingInputs.At World.polledInDisorder.disk) ∧
      (polling.hook "update-status" [] pollingInputs World.polledInDisorder).2 =
        (polling.hook "update-status" [] pollingInputs World.polled).2) ∧
    World.polled.disk.Grounded ∧
      (∀ h ∈ polling.withoutPolls pollingTurns, ∀ p ∈ polling.usedPaths h,
        p.Clear (polling.Spills World.polled.disk) polling.MetricsAt) ∧
      List.Forall₂ (polling.SameBut World.polled.disk)
        (polling.history (polling.withoutPolls pollingTurns) World.polled.disk)
        ((polling.history pollingTurns World.polled.disk).filter
          fun o => !polling.isPoll o.invocation) := by
  have agree : World.Agree (Disk.AgreeOff pollingInputs.At) World.polled World.polledInDisorder :=
    { disk := .of_put (Disk.place_proper _) ⟨_, List.mem_singleton_self _, rfl⟩
      tools := rfl
      environment := by decide +kernel
      now := rfl
      calls := rfl
      metrics := rfl
      log := rfl }
  have state : polling.stateFile.Avoids pollingInputs.At := by decide +kernel
  have programs : ∀ p ∈ polling.programPaths World.polled,
      p.Ignores pollingInputs.At World.polled.disk ∧
        p.Ignores pollingInputs.At World.polledInDisorder.disk := by
    decide +kernel
  have clear : ∀ h ∈ polling.withoutPolls pollingTurns, ∀ p ∈ polling.usedPaths h,
      p.Clear (polling.Spills World.polled.disk) polling.MetricsAt := by
    decide +kernel
  obtain ⟨alike, -, inserted⟩ := polls_independent polling
  exact ⟨⟨agree, state, programs, (alike [] pollingInputs _ _ agree state programs).1⟩,
    World.grounded_polled, clear, inserted pollingTurns _ World.grounded_polled clear⟩

/-- A setup that keeps its flags below a file of the inputs. -/
def sheltered : Setup where
  serviceName := "v"
  stateFile := ⟨"state/flags"⟩

/-- The inputs with that file. -/
def shelteringInputs : Inputs where
  database := some (.file ⟨"state"⟩)

/-- A setup with a directory of its own for the metrics. -/
def detoured : Setup where
  serviceName := "v"
  stateFile := ⟨"flags"⟩
  metricsFile := some ⟨"run/metrics"⟩

/-- Inputs that are reached through that directory. -/
def detouringInputs : Inputs where
  environment := some ⟨"run/../service.env"⟩

/-- An invocation with these inputs. -/
def detouringTurn (event : String) : Happening :=
  .invoke { event, inputs := detouringInputs, now := World.bare.now }

/-- Without such conditions polls do depend on the inputs: flags cannot be looked for below a file. And
they do change what comes after them: a path may lead through a directory that was made for the
metrics. In both cases the files of the inputs are none of those that are written or started. -/
theorem polls_notice_inputs :
    (sheltered.Separate ∧
      World.Agree (Disk.AgreeOff shelteringInputs.At) World.bare World.obstructed ∧
      (∀ p ∈ shelteringInputs.paths, p.place ≠ sheltered.stateFile.place ∧
        ¬ sheltered.MetricsAt p.place ∧
        ∀ q ∈ sheltered.programPaths World.bare, p.place ≠ q.place) ∧
      (sheltered.hook sheltered.pollEvent [] shelteringInputs World.bare).2.isOk = true ∧
      (sheltered.hook sheltered.pollEvent [] shelteringInputs World.obstructed).2.isOk = false) ∧
    detoured.Separate ∧
      (∀ p ∈ detouringInputs.paths, p.place ≠ detoured.stateFile.place ∧
        ¬ detoured.MetricsAt p.place ∧
        ∀ q ∈ detoured.programPaths World.bare, p.place ≠ q.place) ∧
      (detoured.history [detouringTurn "start"] World.bare.disk).map (·.result.isOk) = [false] ∧
      (detoured.history [detouringTurn "update-status", detouringTurn "start"]
        World.bare.disk).map (·.result.isOk) = [true, true] := by
  have agree : World.Agree (Disk.AgreeOff shelteringInputs.At) World.bare World.obstructed :=
    { disk := .of_put (Disk.place_proper _) ⟨_, List.mem_singleton_self _, rfl⟩
      tools := rfl
      environment := rfl
      now := rfl
      calls := rfl
      metrics := rfl
      log := rfl }
  have sheltered_separate : sheltered.Separate :=
    { state_unit := by decide +kernel
      state_settings := by decide +kernel
      unit_settings := by decide +kernel
      metrics := nofun }
  have detoured_separate : detoured.Separate :=
    { state_unit := by decide +kernel
      state_settings := by decide +kernel
      unit_settings := by decide +kernel
      metrics := by
        intro path given
        obtain rfl : path = ⟨"run/metrics"⟩ := (Option.some.inj given).symm
        decide +kernel }
  exact ⟨⟨sheltered_separate, agree, by decide +kernel, by decide +kernel, by decide +kernel⟩,
    detoured_separate, by decide +kernel, by decide +kernel, by decide +kernel⟩

end Setup

end Upkeep
