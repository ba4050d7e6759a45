import Upkeep.Proofs.Disk.Contents
import Upkeep.Proofs.Reconcile.Course
import Upkeep.Reconcile.Rehearsal

/-! Rehearsals answer as surroundings may answer. So what holds of all runs holds of every call that
is rehearsed, with the files of a disk in which every entry lies in a directory. -/
namespace Upkeep

/-- Both files of a service lie at straight paths that end in different names. -/
structure Layout.Apart (l : Layout) : Prop where
  unit : l.unitPath.Straight
  settings : l.configPath.Straight
  lastNames : (Disk.stepsOf l.unitPath).getLast? ≠ (Disk.stepsOf l.configPath).getLast?

theorem Layout.Apart.distinct {l : Layout} (apart : l.Apart) : l.unitPath ≠ l.configPath :=
  fun same => apart.lastNames (same ▸ rfl)

namespace Disk

variable {l : Layout} {d d' : Disk} {p : Path} {content : ByteArray} {mode : Nat}

/-- Directories that are made leave both files of a service as they are. -/
theorem Extends.spared (grown : Extends d d') (apart : l.Apart) (grounded : d.Grounded) :
    Spared l d d' :=
  ⟨grown.content?_eq grounded apart.unit, grown.content?_eq grounded apart.settings⟩

/-- A file of a service that is put in place leaves the other one as it is. -/
theorem Placed.replaced (placed : Placed d p content mode d') (apart : l.Apart)
    (grounded : d.Grounded) (own : p = l.unitPath ∨ p = l.configPath) :
    Replaced l p content d d' := by
  have distinct := apart.distinct
  rcases own with rfl | rfl
  · exact ⟨placed.content?_self, fun other => absurd rfl other,
      fun _ => placed.content?_other grounded apart.settings apart.lastNames.symm⟩
  · exact ⟨placed.content?_self,
      fun _ => placed.content?_other grounded apart.unit apart.lastNames,
      fun other => absurd rfl other⟩

/-- However a replacement ends, the disk stays grounded, the file of a service is replaced or left
as it is, and the other one is left as it is. -/
theorem replaceWith_answers (refuse : ReplaceStep → Option Fault) (content : ByteArray) (mode : Nat)
    (apart : l.Apart) (grounded : d.Grounded) (own : p = l.unitPath ∨ p = l.configPath) :
    (replaceWith refuse d p content mode).1.Grounded ∧
      match replaceWith refuse d p content mode with
      | (d', .ok ()) => Replaced l p content d d'
      | (d', .error _) => Spared l d d' := by
  have replaced := replacing refuse d p content mode
  generalize replaceWith refuse d p content mode = outcome at replaced
  cases replaced with
  | failed grown fault => exact ⟨grown.grounded grounded, grown.spared apart grounded⟩
  | done grown placed =>
    have made := grown.grounded grounded
    have spared := grown.spared apart grounded
    have put := placed.replaced apart made own
    exact ⟨placed.grounded made, put.written, fun other => (put.unit other).trans spared.unit,
      fun other => (put.settings other).trans spared.settings⟩

theorem reads (d : Disk) (p : Path) : Reads (d.content? p) (d.read p) := by
  unfold content?
  cases found : d.read p with
  | ok content => exact .held content rfl
  | error fault =>
    by_cases missing : fault = .noSuchFile
    · subst missing
      exact .missing rfl
    · exact .refused fault missing

end Disk

/-- All that a program asks and is answered when a host answers. -/
def Program.exchanges {α σ : Type} (host : Host σ) : Program α → σ → List Exchange
  | .done _, _ => []
  | .ask r next, s =>
    let (answer, s) := host r s
    ⟨r, answer⟩ :: (next answer).exchanges host s

namespace Rehearsal

/-- A rehearsal with flags in memory goes on in these surroundings. -/
structure Shows (h : Rehearsal) (s : Surroundings) : Prop where
  disk : h.disk = s.disk
  flags : h.flags = .memory s.flags
  grounded : s.disk.Grounded

variable {l : Layout} {h : Rehearsal} {s : Surroundings}

/-- What the stand-in for the flags tells. -/
theorem Shows.isSet_of_get {name : String} {value : Bool} {disk : Disk} (shown : h.Shows s)
    (told : (h.flags.get name disk).toOption = some value) : s.flags.isSet name = value := by
  rw [shown.flags] at told
  exact Option.some.inj told

theorem Shows.content? (shown : h.Shows s) (path : Path) :
    s.disk.content? path = h.disk.content? path := by
  rw [shown.disk]

private theorem shows_of_eq {h' : Rehearsal} (shown : h.Shows s) (disk : h'.disk = h.disk)
    (flags : h'.flags = h.flags) : h'.Shows s :=
  ⟨disk.trans shown.disk, flags.trans shown.flags, shown.grounded⟩

private theorem step_of_write (apart : l.Apart) (shown : h.Shows s) {path : Path}
    {bytes : ByteArray} {mode : Nat} (own : path = l.unitPath ∨ path = l.configPath) :
    ∃ t, s.Step l (.write path bytes mode) (h.write path bytes mode).2 t ∧
      (h.write path bytes mode).1.Shows t := by
  have answers := Disk.replaceWith_answers (fun _ => none) bytes mode apart
    (shown.disk ▸ shown.grounded) own
  unfold Rehearsal.write Disk.replace
  generalize Disk.replaceWith (fun _ => none) h.disk path bytes mode = outcome at answers
  obtain ⟨grounded, change⟩ := answers
  obtain ⟨disk, fault | done⟩ := outcome
  · exact ⟨{ s with disk }, ⟨disk, shown.disk ▸ change, rfl⟩, rfl, shown.flags, grounded⟩
  · exact ⟨{ s with disk }, ⟨disk, shown.disk ▸ change, rfl⟩, rfl, shown.flags, grounded⟩

private theorem step_of_setFlag (shown : h.Shows s) (name : String) (value : Bool) :
    ∃ t, s.Step l (.setFlag name value) (h.setFlag name value).2 t ∧
      (h.setFlag name value).1.Shows t := by
  unfold Rehearsal.setFlag
  cases h.plan.setFlag name with
  | some fault => exact ⟨s, ⟨s.disk, ⟨rfl, rfl⟩, rfl⟩, shown⟩
  | none =>
    refine ⟨{ s with flags := s.flags.insert name value }, ?_, ?_⟩
    · simp only [shown.flags, FlagStore.set]
      exact ⟨s.disk, ⟨rfl, rfl⟩, rfl⟩
    · simp only [shown.flags, FlagStore.set]
      exact ⟨shown.disk, rfl, shown.grounded⟩

/-- The answer of a rehearsal is one that its surroundings may give. -/
theorem step_of_answer (apart : l.Apart) (shown : h.Shows s) {r : Request}
    (own : ∀ path bytes mode, r = .write path bytes mode → path = l.unitPath ∨ path = l.configPath) :
    ∃ t, s.Step l r (answer r h).2 t ∧ (answer r h).1.Shows t := by
  cases r with
  | read path => exact ⟨s, ⟨rfl, shown.disk ▸ Disk.reads h.disk path⟩, shown⟩
  | write path bytes mode => exact step_of_write apart shown (own path bytes mode rfl)
  | getFlag name =>
    refine ⟨s, ⟨rfl, fun value answered => ?_⟩, shows_of_eq shown rfl rfl⟩
    simp only [answer, getFlag] at answered
    split at answered
    · cases answered
    · rw [shown.flags] at answered
      exact (Except.ok.inj answered).symm
  | setFlag name value =>
    have recorded : (h.record (.set name value)).Shows s := shows_of_eq shown rfl rfl
    exact step_of_setFlag recorded name value
  | reloadUnits =>
    simp only [answer]
    cases h.plan.reload with
    | some fault => exact ⟨s, rfl, shows_of_eq shown rfl rfl⟩
    | none =>
      exact ⟨{ s with loaded := (s.files l).unit }, rfl, shown.disk, shown.flags, shown.grounded⟩
  | restart unit =>
    simp only [answer]
    cases h.plan.restart unit with
    | some fault => exact ⟨s, rfl, shows_of_eq shown rfl rfl⟩
    | none => exact ⟨{ s with started := s.files l }, rfl, shown.disk, shown.flags, shown.grounded⟩
  | report state message => exact ⟨s, rfl, shows_of_eq shown rfl rfl⟩
  | log event => exact ⟨s, rfl, shown⟩
  | count counter => exact ⟨s, rfl, shows_of_eq shown rfl rfl⟩
  | observeDuration => exact ⟨s, rfl, shows_of_eq shown rfl rfl⟩

end Rehearsal

/-- The only files that a reconciliation replaces are its own. -/
theorem Reconciliation.Asks.own {r : Reconciliation} {v w : View} {path : Path} {bytes : ByteArray}
    {mode : Nat} (asks : r.Asks v (.write path bytes mode) w) :
    path = r.service.layout.unitPath ∨ path = r.service.layout.configPath := by
  cases asks with
  | quiet quiet => cases quiet
  | converging due rendered asks =>
    cases asks with
    | quiet quiet => cases quiet
    | writeUnit stale => exact .inl rfl
    | writeSettings stale => exact .inr rfl

/-- A program that is rehearsed runs as its surroundings allow. -/
theorem Rehearsal.runs {α : Type} {l : Layout} {allowed : Request → View → Prop}
    {post : α → Scene → Prop} {p : Program α} {h : Rehearsal} {s : Surroundings} {f : Footprint}
    (apart : l.Apart) (own : ∀ path bytes mode v, allowed (.write path bytes mode) v →
      path = l.unitPath ∨ path = l.configPath)
    (ensures : p.Ensures l allowed post ⟨s.view l, f⟩) (shown : h.Shows s) :
    ∃ t, p.Runs l s (p.exchanges host h) (.done (p.run host h).1) t ∧ (p.run host h).2.Shows t := by
  induction p generalizing h s f with
  | done result => exact ⟨s, .here _ s, shown⟩
  | ask r next ih =>
    obtain ⟨t, step, shown⟩ := step_of_answer apart shown (r := r) (by
      rintro path bytes mode rfl
      exact own path bytes mode _ ensures.1)
    have later := ensures.2 _ step.admits
    rw [← step.view_after apart.distinct] at later
    obtain ⟨u, more, shown⟩ := ih _ later shown
    exact ⟨u, .ask step more, shown⟩

/-- A call that is rehearsed runs as its surroundings allow. -/
theorem Reconciliation.runs_of_rehearsal {r : Reconciliation} {h : Rehearsal} {s : Surroundings}
    (apart : r.service.layout.Apart) (shown : h.Shows s) :
    ∃ t, r.program.Runs r.service.layout s (r.program.exchanges Rehearsal.host h)
      (.done (r.program.run Rehearsal.host h).1) t ∧ (r.program.run Rehearsal.host h).2.Shows t :=
  Rehearsal.runs apart (fun _ _ _ _ asks => asks.own) (r.program_ensures apart.distinct) shown

/-- Surroundings in which nothing is installed. -/
def Surroundings.bare : Surroundings :=
  ⟨∅, ∅, none, ⟨none, none⟩⟩

/-- A rehearsal that starts where nothing is installed. -/
def Rehearsal.bare (plan : FailurePlan) : Rehearsal where
  flags := .memory ∅
  plan
  now := ⟨"2024-01-01T00:00:00Z", by decide +kernel⟩

theorem Rehearsal.bare_shows (plan : FailurePlan) : (Rehearsal.bare plan).Shows .bare :=
  ⟨rfl, rfl, Disk.grounded_empty⟩

/-- A call that installs a service with one variable and one setting. -/
def Reconciliation.installation : Reconciliation where
  service := { layout := .ofService "vault" ⟨"/srv"⟩ ⟨"/etc/systemd/system"⟩ }
  environment := .ofList [("MODE", "standalone")]
  config := .ofList [(Config.mainDatabaseKey, .text "postgres://db/vault")]
  trigger := ⟨"config-changed", true⟩

namespace Reconciliation

theorem installation_apart : installation.service.layout.Apart := by
  refine ⟨⟨?_⟩, ⟨?_⟩, ?_⟩ <;> decide +kernel

theorem installation_isDue : installation.IsDue := by
  constructor <;> decide

theorem installation_rendering : ∃ files, installation.rendering = .ok files := by
  have rendered : installation.rendering.toOption.isSome = true := by decide +kernel
  cases rendering : installation.rendering with
  | ok files => exact ⟨files, rfl⟩
  | error fault =>
    rw [rendering] at rendered
    cases rendered

/-- A first call that nothing is refused restarts the service, with the unit in place and no flag
pending. -/
theorem installation_leaves :
    (installation.program.run Rehearsal.host (.bare {})).1.toOption = some .applied ∧
      (∀ e ∈ installation.program.exchanges Rehearsal.host (.bare {}), e.failed = false) ∧
      (installation.program.run Rehearsal.host (.bare {})).2.disk.content?
        installation.service.layout.unitPath ≠ none ∧
      (∀ name ∈ [Flags.reloadPending, Flags.restartPending],
        ((installation.program.run Rehearsal.host (.bare {})).2.flags.get name ∅).toOption =
          some false) := by
  decide +kernel

theorem installation_applied :
    (installation.program.run Rehearsal.host (.bare {})).1 = .ok .applied := by
  have applied := installation_leaves.1
  generalize (installation.program.run Rehearsal.host (.bare {})).1 = result at applied
  cases result with
  | ok outcome => exact congrArg Except.ok (Option.some.inj applied)
  | error fault => cases applied

end Reconciliation

end Upkeep
