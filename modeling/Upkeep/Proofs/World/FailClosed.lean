import Upkeep.Proofs.Disk.Making
import Upkeep.Proofs.Flags.Setting
import Upkeep.Proofs.Flags.Stored
import Upkeep.Proofs.Reconcile.Rehearsals
import Upkeep.Proofs.Result
import Upkeep.Proofs.World.Staleness

/-! A damaged store of flags fails closed. Every use of it is an error, and so is every
reconciliation that is not skipped: it looks at the flags before it writes a file or gives a
command, whichever files are stale. A store that can be read is written only where that changes a
value, and a write that fails changes no file. The directories that it may leave above a file that is
missing can still make its path unreadable, if the path goes up again from them. -/
namespace Upkeep

/-- How often a field of that name occurs in a JSON value. -/
def Json.Value.occurrences (name : String) : Json.Value → Nat
  | .object entries => (fieldsNamed entries name).length
  | _ => 0

namespace Flags.Document

theorem single?_of_several {α : Type} {otherwise : α} {read? : Json.Value → Option α}
    {values : List Json.Value} (several : 1 < values.length) : single? otherwise read? values = none := by
  match values, several with
  | _ :: _ :: _, _ => rfl

/-- A field that a document knows must not be repeated. -/
theorem ofJson?_of_repeated {value : Json.Value} {name : String}
    (known : name = "flags" ∨ name = "updated_at") (repeated : 1 < value.occurrences name) :
    ofJson? value = none := by
  cases value with
  | object entries =>
    rcases known with rfl | rfl
    · simp only [ofJson?, single?_of_several repeated]
      split <;> rfl
    · simp only [ofJson?, single?_of_several repeated]
      split
      · rfl
      · cases single? ∅ flagsOf? (Json.Value.fieldsNamed entries "flags") <;> rfl
  | _ => cases repeated

end Flags.Document

namespace FlagFile

variable {f : FlagFile} {d d' : Disk} {document : Flags.Document}

/-- What is at the path of the file is no document of flags: bytes that are the text of none, or
what cannot be read as a file at all. -/
inductive Damaged (f : FlagFile) (d : Disk) : Prop where
  | content {content : ByteArray} (read : d.read f.path = .ok content)
      (other : ∀ text document, Flags.Document.read? text = some document → content ≠ text.toUTF8)
  | unreadable {fault : Fault} (refused : d.read f.path = .error fault)
      (there : fault ≠ .noSuchFile)

theorem damaged_of_isDirectory (directory : d.isDirectory f.path = true) : f.Damaged d := by
  have refused : d.read f.path = .error .isDirectory := by
    unfold Disk.isDirectory at directory
    unfold Disk.read
    cases resolved : d.resolve f.path with
    | error fault =>
      rw [resolved] at directory
      cases directory
    | ok l =>
      rw [resolved] at directory
      have entry : d.get? l = some .directory := eq_of_beq directory
      simp only [bind, Except.bind, entry]
      rfl
  exact .unreadable refused (by decide)

/-- Just what is damaged cannot be loaded. -/
theorem damaged_iff : f.Damaged d ↔ ∃ fault, f.load d = .error fault := by
  unfold load Disk.readText
  constructor
  · rintro (⟨read, other⟩ | ⟨refused, there⟩)
    · rename_i content
      rw [read]
      simp only [bind, Except.bind]
      cases decoded : String.fromUTF8? content with
      | none => exact ⟨_, rfl⟩
      | some text =>
        cases parsed : Flags.Document.read? text with
        | none => exact ⟨.unparsable f.path, by simp only [pure, Except.pure, parsed]⟩
        | some document =>
          have same : content = text.toUTF8 := Text.fromUTF8?_eq_some.mp decoded
          exact absurd same (other text document parsed)
    · rename_i fault
      rw [refused]
      simp only [bind, Except.bind]
      exact ⟨_, rfl⟩
  · rintro ⟨fault, unloaded⟩
    cases read : d.read f.path with
    | error fault =>
      refine .unreadable read ?_
      rintro rfl
      rw [read] at unloaded
      cases unloaded
    | ok content =>
      refine .content read ?_
      rintro text document parsed rfl
      have decoded : String.fromUTF8? text.toUTF8 = some text := Text.fromUTF8?_eq_some.mpr rfl
      simp only [read, bind, Except.bind, decoded, pure, Except.pure, parsed] at unloaded
      cases unloaded

/-- A text that is read as no document is damage. -/
theorem damaged_of_unparsed {text : String} (read : d.readText f.path = .ok text)
    (unparsed : Flags.Document.read? text = none) : f.Damaged d :=
  damaged_iff.mpr ⟨.unparsable f.path, by simp only [load, read, unparsed]⟩

/-- The ways in which the file of flags may be damaged. -/
inductive Spoilt (f : FlagFile) (d : Disk) : Prop where
  | noText {content : ByteArray} (read : d.read f.path = .ok content)
      (undecoded : String.fromUTF8? content = none)
  | noJson {text : String} (read : d.readText f.path = .ok text)
      (unparsed : Json.Value.read? text = none)
  | otherKind {text : String} {value : Json.Value} (read : d.readText f.path = .ok text)
      (parsed : Json.Value.read? text = some value) (other : Flags.Document.ofJson? value = none)
  | repeated {text name : String} {value : Json.Value} (read : d.readText f.path = .ok text)
      (parsed : Json.Value.read? text = some value) (known : name = "flags" ∨ name = "updated_at")
      (repeated : 1 < value.occurrences name)
  | directory (there : d.isDirectory f.path = true)

theorem Spoilt.damaged (spoilt : f.Spoilt d) : f.Damaged d := by
  cases spoilt with
  | noText read undecoded =>
    refine .content read ?_
    rintro text document - rfl
    cases (Text.fromUTF8?_eq_some.mpr rfl).symm.trans undecoded
  | noJson read unparsed => exact damaged_of_unparsed read (by rw [Flags.Document.read?, unparsed]; rfl)
  | otherKind read parsed other =>
    exact damaged_of_unparsed read (by rw [Flags.Document.read?, parsed]; exact other)
  | repeated read parsed known repeated =>
    refine damaged_of_unparsed read ?_
    rw [Flags.Document.read?, parsed]
    exact Flags.Document.ofJson?_of_repeated known repeated
  | directory there => exact damaged_of_isDirectory there

/-- What is loaded depends on what is read at the path only. -/
theorem load_congr (same : d'.read f.path = d.read f.path) : f.load d' = f.load d := by
  unfold load Disk.readText
  rw [same]

/-- Flags are loaded from a file that is there, or from none. -/
theorem there_or_missing (loaded : f.load d = .ok document) :
    d.content? f.path ≠ none ∨ d.read f.path = .error .noSuchFile := by
  cases read : d.read f.path with
  | ok content =>
    rw [Disk.content?_eq_some.mpr read]
    exact .inl (Option.some_ne_none content)
  | error fault =>
    right
    by_contra there
    have damaged : f.Damaged d := .unreadable read fun same => there (by rw [same])
    obtain ⟨fault, unloaded⟩ := damaged_iff.mp damaged
    cases loaded.symm.trans unloaded

/-- What is loaded does not change when the directories above the file are made. -/
def Steady (f : FlagFile) (d : Disk) : Prop :=
  f.load (d.makeDirectories f.path.directory).1 = f.load d

/-- A file that is there is read as before; one that is missing stays so, where its path goes onward. -/
theorem steady_of_load (loaded : f.load d = .ok document)
    (clear : d.content? f.path ≠ none ∨ d.Grounded ∧ f.path.Onward d) : f.Steady d := by
  refine load_congr ?_
  by_cases there : d.content? f.path = none
  · obtain ⟨grounded, onward⟩ := clear.resolve_left (not_not_intro there)
    have missing := (there_or_missing loaded).resolve_left (not_not_intro there)
    rw [missing, Disk.read_makeDirectories_of_missing grounded onward missing]
  · obtain ⟨content, found⟩ := Option.ne_none_iff_exists'.mp there
    have grown := Disk.extends_makeDirectories d f.path.directory
    rw [Disk.content?_eq_some.mp found,
      Disk.content?_eq_some.mp (grown.passable.content?_eq grown.file?_eq found)]

/-- Whatever the system refuses, flags that could not be set are loaded as before just where making the
directories above the file does not matter. -/
theorem steady_iff (loaded : f.load d = .ok document) :
    (∀ refuse now name value d' fault,
      f.setWith refuse now name value d = (d', .error fault) → f.load d' = .ok document) ↔
    f.Steady d := by
  constructor
  · intro kept
    have other : document.flags.get? "" ≠ some (document.flags.get? "" != some true) := by
      cases document.flags.get? "" with
      | none => exact nofun
      | some value => cases value <;> decide
    obtain ⟨refuse, fault, failed⟩ :=
      exists_setWith_error loaded other ⟨"2024-01-01T00:00:00Z", Timestamp.isValid_newYear⟩
    exact (kept _ _ _ _ _ _ failed).trans loaded.symm
  · intro steady refuse now name value d' fault failed
    rcases eq_of_setWith_error failed with rfl | rfl
    · exact loaded
    · exact steady.trans loaded

end FlagFile

namespace Artifact

variable {a : Artifact} {e : Equipment} {w : World}

/-- A file that holds what it shall is left alone. -/
theorem apply_run_of_fresh (fresh : current? a.path (w.disk.read a.path) = .ok (some a.bytes)) :
    a.apply.run.run e.host w = (.ok false, w.logEvent e.span (.artifactUnchanged a.path)) := by
  have read := a.readCurrent_run e w
  rw [fresh] at read
  unfold apply
  rw [Action.run_bind_of_ok _ read, if_pos rfl]
  rfl

end Artifact

namespace Service

variable {s : Service} {files : ServiceFiles} {a : Artifact} {e : Equipment} {w : World}
  {fault : FlagFault} {name : String} {value : Bool}

/-- Whether an artifact is stale depends on what is read. -/
theorem isStale_run (a : Artifact) (e : Equipment) (w : World) :
    (Action.mapFault ReconcileFault.artifact a.isStale).run.run e.host w =
      (((Artifact.current? a.path (w.disk.read a.path)).map (· != some a.bytes)).mapError .artifact,
        w) := by
  have stale := Artifact.run_isStale e.servesFiles a w
  rw [Action.run_mapFault, stale]
  rfl

theorem isStale_run_of_error {refused : ArtifactFault}
    (read : Artifact.current? a.path (w.disk.read a.path) = .error refused) :
    (Action.mapFault ReconcileFault.artifact a.isStale).run.run e.host w =
      (.error (.artifact refused), w) := by
  rw [isStale_run, read]
  rfl

theorem isStale_run_of_ok {content : Option ByteArray}
    (read : Artifact.current? a.path (w.disk.read a.path) = .ok content) :
    (Action.mapFault ReconcileFault.artifact a.isStale).run.run e.host w =
      (.ok (content != some a.bytes), w) := by
  rw [isStale_run, read]
  rfl

theorem discard_apply_run_of_fresh
    (fresh : Artifact.current? a.path (w.disk.read a.path) = .ok (some a.bytes)) :
    (Functor.discard (Action.mapFault ReconcileFault.artifact a.apply) :
      Reconciling Unit).run.run e.host w =
        (.ok (), w.logEvent e.span (.artifactUnchanged a.path)) := by
  have applied : (Action.mapFault ReconcileFault.artifact a.apply).run.run e.host w = _ :=
    Action.run_mapFault ReconcileFault.artifact a.apply e.host w
  rw [Artifact.apply_run_of_fresh fresh] at applied
  exact Action.run_bind_of_ok _ applied

theorem getFlag_run_of_unloaded (unloaded : e.flags.load w.disk = .error fault) :
    (getFlag name).run.run e.host w = (.error (.flag fault), w) := by
  have answer : e.answer (.getFlag name) w = (w, .error fault) := by
    simp only [Equipment.answer, FlagFile.get, unloaded, Except.map]
  have asked : (Action.getFlag name).run.run e.host w = _ := Program.run_request _ e.host w
  rw [e.host_eq, answer] at asked
  rw [getFlag, Action.run_mapFault, asked]
  rfl

theorem setFlag_run_of_unloaded (unloaded : e.flags.load w.disk = .error fault) :
    (setFlag name value).run.run e.host w = (.error (.flag fault), w) := by
  have answer : e.answer (.setFlag name value) w = (w, .error fault) := by
    simp only [Equipment.answer, Equipment.setFlag, FlagFile.set, unloaded]
  have asked : (Action.setFlag name value).run.run e.host w = _ := Program.run_request _ e.host w
  rw [e.host_eq, answer] at asked
  rw [setFlag, Action.run_mapFault, asked]
  rfl

/-- What is stale cannot be marked. -/
theorem markPending_run_of_unloaded {unitStale settingsStale : Bool}
    (stale : (unitStale || settingsStale) = true) (unloaded : e.flags.load w.disk = .error fault) :
    (markPending unitStale settingsStale).run.run e.host w = (.error (.flag fault), w) := by
  unfold markPending
  cases unitStale with
  | true => exact Action.run_bind_of_error _ (setFlag_run_of_unloaded unloaded)
  | false =>
    obtain rfl : settingsStale = true := stale
    exact setFlag_run_of_unloaded unloaded

/-- A service does not converge without its flags, and nothing but the log tells that it was to. -/
theorem converge_run_of_unloaded (unloaded : e.flags.load w.disk = .error fault) :
    ∃ refused log, (s.converge files).run.run e.host w = (.error refused, { w with log }) := by
  unfold converge
  cases unit : Artifact.current? files.unit.path (w.disk.read files.unit.path) with
  | error refused => exact ⟨_, _, Action.run_bind_of_error _ (isStale_run_of_error unit)⟩
  | ok unitContent =>
    rw [Action.run_bind_of_ok _ (isStale_run_of_ok unit)]
    cases settings : Artifact.current? files.settings.path (w.disk.read files.settings.path) with
    | error refused => exact ⟨_, _, Action.run_bind_of_error _ (isStale_run_of_error settings)⟩
    | ok settingsContent =>
      rw [Action.run_bind_of_ok _ (isStale_run_of_ok settings)]
      -- A stale file is marked before it is written; without one, the pending restart is asked for.
      cases stale : (unitContent != some files.unit.bytes) ||
          (settingsContent != some files.settings.bytes) with
      | true => exact ⟨_, _, Action.run_bind_of_error _ (markPending_run_of_unloaded stale unloaded)⟩
      | false =>
        obtain ⟨unitFresh, settingsFresh⟩ := Bool.or_eq_false_iff.mp stale
        rw [bne_eq_false_iff_eq.mp unitFresh] at unit
        rw [bne_eq_false_iff_eq.mp settingsFresh] at settings
        rw [unitFresh, settingsFresh]
        have unmarked : (markPending false false).run.run e.host w = (.ok (), w) := rfl
        have settingsApplied := discard_apply_run_of_fresh (e := e)
          (w := w.logEvent e.span (.artifactUnchanged files.unit.path)) settings
        rw [Action.run_bind_of_ok _ unmarked,
          Action.run_bind_of_ok _ (discard_apply_run_of_fresh unit),
          Action.run_bind_of_ok _ settingsApplied]
        exact ⟨_, _, Action.run_bind_of_error _ (getFlag_run_of_unloaded unloaded)⟩

end Service

namespace Reconciliation

variable {r : Reconciliation} {e : Equipment} {w : World} {fault : FlagFault}

/-- A call that is not skipped fails without its flags, and leaves nothing behind but its log and
what it counts. -/
theorem run_of_unloaded (due : r.IsDue) (unloaded : e.flags.load w.disk = .error fault) :
    ∃ refused log metrics, r.program.run e.host w = (.error refused, { w with log, metrics }) := by
  have whole : r.program.run e.host w = _ :=
    Program.run_bind (r.service.reconcileOnce r.environment r.config r.trigger).run _ e.host
      (w.count .reconciliations)
  have once : ∃ refused log,
      (r.service.reconcileOnce r.environment r.config r.trigger).run.run e.host
        (w.count .reconciliations) = (.error refused, { w.count .reconciliations with log }) := by
    rw [due.once_eq]
    cases r.rendering with
    | error fault => exact ⟨_, _, rfl⟩
    | ok files => exact Service.converge_run_of_unloaded (w := w.count .reconciliations) unloaded
  obtain ⟨refused, log, once⟩ := once
  rw [once] at whole
  exact ⟨refused, log, _, whole⟩

end Reconciliation

namespace FlagFile

variable {f : FlagFile} {d : Disk}

/-- Whatever is wrong with the file, it is damaged. A damaged file answers every use with one and the
same error, and stays as it is; so does the disk as a whole under a reconciliation that is not skipped,
which fails without a call of any program. A file that can be loaded is left alone when a flag gets the
value that it has there. When a write fails, at whatever step the system refuses it, every file stays as it
was. The flags stay as they were too, just where making the directories above the file leaves what is
loaded as it was: so it is where the file is there, and where it is missing and no name after the first
missing one on its path leads up or is too long. -/
theorem fails_closed (f : FlagFile) (d : Disk) :
    (f.Spoilt d → f.Damaged d) ∧
    (f.Damaged d →
      (∃ fault,
        (∀ name, (FlagStore.file f).get name d = .error fault) ∧
        (FlagStore.file f).active d = .error fault ∧
        (FlagStore.file f).progress d = .error fault ∧
        ∀ now name value, (FlagStore.file f).set now name value d = (.file f, d, .error fault)) ∧
      ∀ (r : Reconciliation) (e : Equipment) (w : World),
        r.IsDue → e.flags = f → w.disk = d →
          ∃ refused log metrics,
            r.program.run e.host w = (.error refused, { w with log, metrics })) ∧
    (∀ now name value, f.setWith (fun _ => none) now name value d = f.set now name value d) ∧
    ∀ document, f.load d = .ok document →
      (∀ refuse now name value, document.flags.get? name = some value →
        f.setWith refuse now name value d = (d, .ok .alreadySet)) ∧
      (∀ refuse now name value d' fault, f.setWith refuse now name value d = (d', .error fault) →
        ∀ l, d'.file? l = d.file? l) ∧
      ((∀ refuse now name value d' fault, f.setWith refuse now name value d = (d', .error fault) →
        f.load d' = .ok document) ↔ f.Steady d) ∧
      (d.content? f.path ≠ none ∨ d.Grounded ∧ f.path.Onward d → f.Steady d) := by
  refine ⟨Spoilt.damaged, ?_, fun now name value => f.setWith_none now name value d, ?_⟩
  · intro damaged
    obtain ⟨fault, unloaded⟩ := damaged_iff.mp damaged
    constructor
    · refine ⟨fault, ?_, ?_, ?_, ?_⟩
      · intro name
        simp only [FlagStore.get, get, unloaded, Except.map]
      · simp only [FlagStore.active, active, unloaded, Except.map]
      · simp only [FlagStore.progress, FlagStore.get, get, unloaded, Except.map]
      · intro now name value
        simp only [FlagStore.set, set, unloaded, Except.map]
    · rintro r e w due rfl rfl
      exact Reconciliation.run_of_unloaded due unloaded
  · intro document loaded
    refine ⟨?_, ?_, steady_iff loaded, steady_of_load loaded⟩
    · intro refuse now name value same
      simp only [setWith, loaded, same, ↓reduceIte]
    · intro refuse now name value d' fault failed l
      have setting := setting refuse f now name value d
      rw [failed] at setting
      exact setting.extends_of_error.file?_eq

/-- A file whose path comes back to a directory that is made for it. -/
def climbing : FlagFile := ⟨⟨"a/b/../../a"⟩⟩

/-- A file whose name is too long, in a directory that is made for it. -/
def overlong : FlagFile := ⟨⟨"a/" ++ String.ofList (List.replicate 256 'n')⟩⟩

/-- There are no such flags on an empty disk, and they cannot be set; after that, they cannot be read
any more either. -/
theorem flags_unread_after_failed_set :
    ((climbing.active ∅).toOption = some [] ∧
      (climbing.set ⟨"2024-01-01T00:00:00Z", Timestamp.isValid_newYear⟩ "x" true ∅).2.toOption = none ∧
      (climbing.active (climbing.set ⟨"2024-01-01T00:00:00Z", Timestamp.isValid_newYear⟩ "x" true
        ∅).1).toOption = none) ∧
    (overlong.active ∅).toOption = some [] ∧
      (overlong.set ⟨"2024-01-01T00:00:00Z", Timestamp.isValid_newYear⟩ "x" true ∅).2.toOption = none ∧
      (overlong.active (overlong.set ⟨"2024-01-01T00:00:00Z", Timestamp.isValid_newYear⟩ "x" true
        ∅).1).toOption = none := by
  decide +kernel

end FlagFile

/-- Flags with a field twice, beside flags that can be read. -/
def Disk.repeatedFlags : Disk :=
  ((∅ : Disk).put ⟨false, ["broken.json"]⟩ (.file 0o644
    "\x7b\"flags\": \x7b\x7d, \"flags\": \x7b\"a\": true\x7d\x7d".toUTF8)).put
      ⟨false, ["kept.json"]⟩ (.file 0o640 "[\x7b\"a\": true\x7d]".toUTF8)

/-- A world with both. -/
def World.repeatedFlags : World where
  disk := .repeatedFlags
  now := ⟨"2024-01-01T00:00:00Z", Timestamp.isValid_newYear⟩

/-- What a reconciliation works with that keeps its flags where a field is twice. -/
def Equipment.repeatedFlags : Equipment :=
  ⟨⟨⟨"broken.json"⟩⟩, ⟨⟨"systemctl"⟩⟩, .log, none⟩

/-- Flags that can be read there. -/
def FlagFile.kept : FlagFile := ⟨⟨"kept.json"⟩⟩

/-- Flags in a directory that is made for them. -/
def FlagFile.missing : FlagFile := ⟨⟨"state/flags.json"⟩⟩

open Disk in
theorem FlagFile.fails_closed_on_repeated_flags :
    Equipment.repeatedFlags.flags.Damaged repeatedFlags ∧
      (⟨⟨"."⟩⟩ : FlagFile).Damaged repeatedFlags ∧
      (∃ refused log metrics, Reconciliation.installation.program.run Equipment.repeatedFlags.host
        .repeatedFlags = (.error refused, { World.repeatedFlags with log, metrics })) ∧
      kept.set World.repeatedFlags.now "a" true repeatedFlags = (repeatedFlags, .ok .alreadySet) ∧
      (∃ refuse d fault,
        kept.setWith refuse World.repeatedFlags.now "a" false repeatedFlags = (d, .error fault) ∧
        (∀ l, d.file? l = repeatedFlags.file? l) ∧ kept.load d = kept.load repeatedFlags) ∧
      ∃ refuse d fault,
        missing.setWith refuse World.repeatedFlags.now "a" true ∅ = (d, .error fault) ∧
        (∀ l, d.file? l = (∅ : Disk).file? l) ∧ missing.load d = missing.load ∅ := by
  have spoilt : Equipment.repeatedFlags.flags.Spoilt repeatedFlags := by
    have written : ((repeatedFlags.readText Equipment.repeatedFlags.flags.path).toOption.bind
        Json.Value.read?).map (Json.Value.occurrences "flags") = some 2 := by
      decide +kernel
    obtain ⟨value, found, twice⟩ := Option.map_eq_some_iff.mp written
    obtain ⟨text, read, parsed⟩ := Option.bind_eq_some_iff.mp found
    exact .repeated (Result.toOption_eq_some.mp read) parsed (.inl rfl) (by rw [twice]; decide)
  have damaged := (fails_closed _ _).1 spoilt
  have read : (kept.load repeatedFlags).map (fun document => document.flags.get? "a") =
      .ok (some true) :=
    Result.toOption_eq_some.mp (by decide +kernel)
  obtain ⟨document, load, value⟩ := Result.map_eq_ok.mp read
  have absent : (missing.load ∅).map (fun document => document.flags.get? "a") = .ok none :=
    Result.toOption_eq_some.mp (by decide +kernel)
  obtain ⟨empty, vacant, unset⟩ := Result.map_eq_ok.mp absent
  have whole := (fails_closed kept repeatedFlags).2.2.2 document load
  have without := (fails_closed missing ∅).2.2.2 empty vacant
  refine ⟨damaged, (fails_closed _ _).1 (.directory (by decide +kernel)), ?_, ?_, ?_, ?_⟩
  · exact ((fails_closed _ _).2.1 damaged).2 Reconciliation.installation Equipment.repeatedFlags
      World.repeatedFlags Reconciliation.installation_isDue rfl rfl
  · rw [← (fails_closed kept repeatedFlags).2.2.1]
    exact whole.1 _ _ _ _ value
  · have other : document.flags.get? "a" ≠ some false := by
      rw [value]
      decide
    obtain ⟨refuse, fault, failed⟩ := exists_setWith_error load other World.repeatedFlags.now
    have steady := whole.2.2.2 (.inl (by decide +kernel))
    exact ⟨refuse, _, fault, failed, whole.2.1 _ _ _ _ _ _ failed,
      (whole.2.2.1.mpr steady _ _ _ _ _ _ failed).trans load.symm⟩
  · have other : empty.flags.get? "a" ≠ some true := by
      rw [unset]
      decide
    obtain ⟨refuse, fault, failed⟩ := exists_setWith_error vacant other World.repeatedFlags.now
    have steady := without.2.2.2 (.inr ⟨grounded_empty, Path.Plain.onward (by decide +kernel) _⟩)
    exact ⟨refuse, _, fault, failed, without.2.1 _ _ _ _ _ _ failed,
      (without.2.2.1.mpr steady _ _ _ _ _ _ failed).trans vacant.symm⟩

end Upkeep
