import Upkeep.Proofs.Disk.Files
import Upkeep.Proofs.World.Effects

/-! Asking whether an artifact is stale foretells what putting it in place does. Both read the file
and compare its bytes, each on its own; as they compare alike, a file is written just if it was stale,
and one that has been put in place is not stale any more. Whatever is refused on the way, files are
as they were unless the artifact was put in place. -/
namespace Upkeep

/-- A host that has the files of a disk. It may be kept from reading some paths, whatever is there, and
any step of a replacement may be refused on top of the disk's own reasons. Logging and counting touch
no file. -/
structure ServesFiles {σ : Type} (host : Host σ) (disk : σ → Disk) (locked : Path → Option Fault) :
    Prop where
  reads : ∀ path state, host (.read path) state =
    ((locked path).elim ((disk state).read path) Except.error, state)
  present : ∀ path, locked path ≠ some .noSuchFile
  writes : ∀ path content mode state, ∃ refuse, (disk state).replaceWith refuse path content mode =
    (disk (host (.write path content mode) state).2, (host (.write path content mode) state).1)
  logs : ∀ event state, disk (host (.log event) state).2 = disk state
  counts : ∀ counter state, disk (host (.count counter) state).2 = disk state

/-- Equipment has the files of the world, and reads all of them. -/
theorem Equipment.servesFiles (e : Equipment) : ServesFiles e.host World.disk fun _ => none where
  reads _ _ := rfl
  present _ := by simp
  writes path content mode w := ⟨fun _ => none, by
    have written : e.host (.write path content mode) w = ((write path content mode w).2, _) := rfl
    rw [written, write_eq]
    rfl⟩
  logs _ _ := rfl
  counts _ _ := rfl

namespace ServesFiles

variable {σ : Type} {host : Host σ} {disk : σ → Disk} {locked : Path → Option Fault} {path : Path}
  {content : ByteArray} {mode : Nat} {state : σ}

theorem state_read (serves : ServesFiles host disk locked) (path : Path) (state : σ) :
    (host (.read path) state).2 = state := by
  rw [serves.reads]

theorem replacing (serves : ServesFiles host disk locked) :
    Disk.Replacing (disk state) path content mode (disk (host (.write path content mode) state).2,
      (host (.write path content mode) state).1) := by
  obtain ⟨refuse, written⟩ := serves.writes path content mode state
  exact written ▸ Disk.replacing refuse (disk state) path content mode

/-- What is not there, or can be read, is not kept from being read. -/
theorem locked_eq_none (serves : ServesFiles host disk locked)
    (found : ∀ fault, (host (.read path) state).1 = .error fault → fault = .noSuchFile) :
    locked path = none := by
  rw [serves.reads] at found
  cases here : locked path with
  | none => rfl
  | some fault =>
    rw [here] at found
    exact absurd (found fault rfl ▸ here) (serves.present path)

end ServesFiles

namespace Action

variable {ε σ : Type} {host : Host σ} {state : σ}

theorem run_log (event : Log.Event) : (log event : Action ε Unit).run.run host state =
    (.ok (), (host (.log event) state).2) :=
  rfl

theorem run_count (counter : Counter) : (count counter : Action ε Unit).run.run host state =
    (.ok (), (host (.count counter) state).2) :=
  rfl

end Action

namespace Artifact

variable {σ : Type} {host : Host σ} {disk : σ → Disk} {locked : Path → Option Fault} {a : Artifact}
  {state after : σ} {bytes : ByteArray}

/-- Reading an artifact's file as it is takes one request. -/
theorem run_readCurrent (a : Artifact) (host : Host σ) (state : σ) :
    a.readCurrent.run.run host state =
      (current? a.path (host (.read a.path) state).1, (host (.read a.path) state).2) :=
  rfl

theorem run_write (a : Artifact) (host : Host σ) (state : σ) : a.write.run.run host state =
    ((host (.write a.path a.bytes a.mode) state).1.mapError (.unwritable a.path),
      (host (.write a.path a.bytes a.mode) state).2) :=
  Action.run_mapFault (ArtifactFault.unwritable a.path) _ host state

/-- An artifact is stale if what is read is not its bytes. -/
theorem run_isStale (serves : ServesFiles host disk locked) (a : Artifact) (state : σ) :
    a.isStale.run.run host state =
      ((current? a.path (host (.read a.path) state).1).map (· != some a.bytes), state) := by
  have read := a.run_readCurrent host state
  rw [serves.state_read] at read
  unfold isStale
  cases current : current? a.path (host (.read a.path) state).1 with
  | error fault =>
    rw [current] at read
    exact Action.run_bind_of_error _ read
  | ok content =>
    rw [current] at read
    exact Action.run_bind_of_ok _ read

/-- How putting an artifact in place ends: its file could not be read, or holds its bytes already, or
was to be written. -/
theorem run_apply_cases (serves : ServesFiles host disk locked) (a : Artifact) (state : σ) :
    (∃ fault, current? a.path (host (.read a.path) state).1 = .error fault ∧
        a.apply.run.run host state = (.error fault, state)) ∨
      (current? a.path (host (.read a.path) state).1 = .ok (some a.bytes) ∧
        ∃ after, a.apply.run.run host state = (.ok false, after) ∧ disk after = disk state) ∨
      ∃ content, current? a.path (host (.read a.path) state).1 = .ok content ∧
        content ≠ some a.bytes ∧
        ∃ result after, Disk.Replacing (disk state) a.path a.bytes a.mode (disk after, result) ∧
          a.apply.run.run host state =
            ((result.map fun _ => true).mapError (.unwritable a.path), after) := by
  have read := a.run_readCurrent host state
  rw [serves.state_read] at read
  cases current : current? a.path (host (.read a.path) state).1 with
  | error fault =>
    rw [current] at read
    exact .inl ⟨fault, rfl, Action.run_bind_of_error _ read⟩
  | ok content =>
    rw [current] at read
    unfold apply
    rw [Action.run_bind_of_ok _ read]
    by_cases fresh : content = some a.bytes
    · subst fresh
      rw [if_pos rfl]
      exact .inr (.inl ⟨rfl, _, rfl, serves.logs _ state⟩)
    · rw [if_neg fresh]
      refine .inr (.inr ⟨content, rfl, fresh, ?_⟩)
      rw [Action.run_bind_of_ok _ (Action.run_log _)]
      generalize logged : (host (.log (.artifactDiffers a.path (content.map Sha256.hex)
        (Sha256.hex a.bytes))) state).2 = told
      have same : disk told = disk state := logged ▸ serves.logs _ state
      have replacing : Disk.Replacing (disk told) a.path a.bytes a.mode
          (disk (host (.write a.path a.bytes a.mode) told).2,
            (host (.write a.path a.bytes a.mode) told).1) := serves.replacing
      rw [same] at replacing
      have written := a.run_write host told
      cases ended : host (.write a.path a.bytes a.mode) told with
      | mk result after =>
        rw [ended] at replacing written
        cases result with
        | error fault =>
          exact ⟨.error fault, after, replacing, Action.run_bind_of_error _ written⟩
        | ok done =>
          refine ⟨.ok (), (host (.log (.artifactWritten a.path))
            (host (.count .artifactsWritten) after).2).2, ?_, ?_⟩
          · rw [serves.logs, serves.counts]
            exact replacing
          · rw [Action.run_bind_of_ok _ written, Action.run_bind_of_ok _ (Action.run_count _),
              Action.run_bind_of_ok _ (Action.run_log _)]
            rfl

/-- What the answer to a reading makes of an artifact. -/
theorem run_isStale_of_read (serves : ServesFiles host disk locked) (a : Artifact) (state : σ) :
    (∀ bytes, (host (.read a.path) state).1 = .ok bytes →
        a.isStale.run.run host state = (.ok (decide (bytes ≠ a.bytes)), state)) ∧
      ((host (.read a.path) state).1 = .error .noSuchFile →
        a.isStale.run.run host state = (.ok true, state)) ∧
      ∀ fault, fault ≠ .noSuchFile → (host (.read a.path) state).1 = .error fault →
        a.isStale.run.run host state = (.error (.unreadable a.path fault), state) := by
  rw [run_isStale serves]
  refine ⟨fun bytes read => ?_, fun missing => ?_, fun fault other refused => ?_⟩
  · have verdict : (some bytes != some a.bytes) = decide (bytes ≠ a.bytes) := by
      rw [Bool.eq_iff_iff, bne_iff_ne, decide_eq_true_iff, ne_eq, Option.some.injEq]
    rw [current?_eq_some.mpr read, ← verdict]
    rfl
  · rw [current?_eq_none.mpr missing]
    rfl
  · rw [refused, current?_refused other]
    rfl

/-- A file that holds what it shall is not stale, and is left alone. -/
theorem run_of_held (serves : ServesFiles host disk locked)
    (held : (host (.read a.path) state).1 = .ok a.bytes) :
    a.isStale.run.run host state = (.ok false, state) ∧
      ∃ after, a.apply.run.run host state = (.ok false, after) ∧ disk after = disk state := by
  have current : current? a.path (host (.read a.path) state).1 = .ok (some a.bytes) :=
    current?_eq_some.mpr held
  refine ⟨?_, ?_⟩
  · rw [(run_isStale_of_read serves a state).1 a.bytes held]
    simp
  · rcases run_apply_cases serves a state with ⟨fault, refused, -⟩ | ⟨-, left⟩ | ⟨_, other, differs, -⟩
    · cases current.symm.trans refused
    · exact left
    · cases current.symm.trans other
      exact absurd rfl differs

/-- What is read is what the disk holds. -/
theorem read_of_held (serves : ServesFiles host disk locked)
    (held : (host (.read a.path) state).1 = .ok bytes) : (disk state).read a.path = .ok bytes := by
  rw [serves.reads] at held
  cases here : locked a.path with
  | none => rwa [here] at held
  | some fault =>
    rw [here] at held
    cases held

/-- A file that could be looked at, and has been put in place, is left in place. -/
theorem run_of_written (serves : ServesFiles host disk locked) {content : Option ByteArray}
    (current : current? a.path (host (.read a.path) state).1 = .ok content)
    (written : (disk after).read a.path = .ok a.bytes) :
    a.isStale.run.run host after = (.ok false, after) ∧
      ∃ again, a.apply.run.run host after = (.ok false, again) ∧ disk again = disk after := by
  have found (fault : Fault) (refused : (host (.read a.path) state).1 = .error fault) :
      fault = .noSuchFile := by
    apply Classical.byContradiction
    intro other
    rw [refused, current?_refused other] at current
    cases current
  have free : locked a.path = none := serves.locked_eq_none found
  apply run_of_held serves
  rw [serves.reads, free]
  exact written

/-- How putting an artifact in place has to end, given what was told of it: with what was told, or with
a failure to write what is stale, or with the fault for which nothing could be told. What was put in
place is not stale any more and is not written again, and a failure leaves all files as they were. -/
structure Foretold (host : Host σ) (disk : σ → Disk) (a : Artifact) (state : σ)
    (result : Except ArtifactFault Bool) (after : σ) : Prop where
  told : ∀ stale, (a.isStale.run.run host state).1 = .ok stale →
    result = .ok stale ∨ stale = true ∧ ∃ fault, result = .error (.unwritable a.path fault)
  untold : ∀ fault, (a.isStale.run.run host state).1 = .error fault →
    result = .error fault ∧ after = state
  unchanged : result = .ok false → disk after = disk state
  settled : ∀ changed, result = .ok changed → (disk after).read a.path = .ok a.bytes ∧
    a.isStale.run.run host after = (.ok false, after) ∧
    ∃ again, a.apply.run.run host after = (.ok false, again) ∧ disk again = disk after
  failed : ∀ fault, result = .error fault → ∀ l, (disk after).file? l = (disk state).file? l

theorem foretold_of_refused {fault : ArtifactFault}
    (told : (a.isStale.run.run host state).1 = .error fault) :
    Foretold host disk a state (.error fault) state where
  told stale other := by cases told.symm.trans other
  untold fault same := by
    cases told.symm.trans same
    exact ⟨rfl, rfl⟩
  unchanged _ := rfl
  settled changed ended := by cases ended
  failed _ _ _ := rfl

theorem foretold_of_held (serves : ServesFiles host disk locked)
    (held : (host (.read a.path) state).1 = .ok a.bytes) (same : disk after = disk state) :
    Foretold host disk a state (.ok false) after := by
  have told : (a.isStale.run.run host state).1 = .ok false :=
    congrArg Prod.fst (run_of_held serves held).1
  have written : (disk after).read a.path = .ok a.bytes := same ▸ read_of_held serves held
  refine ⟨?_, ?_, fun _ => same, ?_, ?_⟩
  · intro stale other
    cases told.symm.trans other
    exact .inl rfl
  · intro fault other
    cases told.symm.trans other
  · intro changed _
    exact ⟨written, run_of_written serves (current?_eq_some.mpr held) written⟩
  · intro fault ended
    cases ended

theorem foretold_of_replacing (serves : ServesFiles host disk locked) {content : Option ByteArray}
    {result : Except Fault Unit}
    (current : current? a.path (host (.read a.path) state).1 = .ok content)
    (differs : content ≠ some a.bytes)
    (replacing : Disk.Replacing (disk state) a.path a.bytes a.mode (disk after, result)) :
    Foretold host disk a state ((result.map fun _ => true).mapError (.unwritable a.path)) after := by
  have told : (a.isStale.run.run host state).1 = .ok true := by
    rw [run_isStale serves, current]
    exact congrArg Except.ok (bne_iff_ne.mpr differs)
  refine ⟨?_, ?_, ?_, ?_, ?_⟩
  · intro stale other
    cases told.symm.trans other
    cases result with
    | ok done => exact .inl rfl
    | error fault => exact .inr ⟨rfl, fault, rfl⟩
  · intro fault other
    cases told.symm.trans other
  · intro ended
    cases result <;> cases ended
  · intro changed ended
    cases replacing with
    | failed grown fault => cases ended
    | done grown placed =>
      have written := Disk.content?_eq_some.mp placed.content?_self
      exact ⟨written, run_of_written serves current written⟩
  · intro fault ended l
    cases replacing with
    | failed grown fault => exact grown.file?_eq
    | done grown placed => cases ended

/-- Being asked whether an artifact is stale and putting it in place go together. It is stale if its
file is missing or holds other bytes, and nothing is told of a file that cannot be read; however it is,
that foretells what putting it in place comes to. -/
theorem staleness_foretells (serves : ServesFiles host disk locked) (a : Artifact) (state : σ) :
    ((∀ bytes, (host (.read a.path) state).1 = .ok bytes →
        a.isStale.run.run host state = (.ok (decide (bytes ≠ a.bytes)), state)) ∧
      ((host (.read a.path) state).1 = .error .noSuchFile →
        a.isStale.run.run host state = (.ok true, state)) ∧
      ∀ fault, fault ≠ .noSuchFile → (host (.read a.path) state).1 = .error fault →
        a.isStale.run.run host state = (.error (.unreadable a.path fault), state)) ∧
    ∃ result after, a.apply.run.run host state = (result, after) ∧
      Foretold host disk a state result after := by
  refine ⟨run_isStale_of_read serves a state, ?_⟩
  rcases run_apply_cases serves a state with ⟨refused, current, ran⟩ | ⟨current, after, ran, same⟩ |
    ⟨content, current, differs, result, after, replacing, ran⟩
  · refine ⟨_, _, ran, foretold_of_refused ?_⟩
    rw [run_isStale serves, current]
    rfl
  · exact ⟨_, _, ran, foretold_of_held serves (current?_eq_some.mp current) same⟩
  · exact ⟨_, _, ran, foretold_of_replacing serves current differs replacing⟩

/-- A file that shall be empty. -/
def blank : Artifact :=
  ⟨⟨"unit"⟩, "", 0o644⟩

end Artifact

/-- A world with a file that holds what is no text. -/
def World.binary : World where
  disk := (∅ : Disk).put ⟨false, ["unit"]⟩ (.file 0o600 ⟨#[0xFF]⟩)
  now := ⟨"2024-01-01T00:00:00Z", Timestamp.isValid_newYear⟩

/-- What is used where nothing but files matters. -/
def Equipment.plain : Equipment :=
  ⟨⟨⟨"flags.json"⟩⟩, ⟨⟨"systemctl"⟩⟩, .log, none⟩

namespace Artifact

/-- The file is stale, is written, and is not stale any more. -/
theorem staleness_foretells_blank :
    blank.isStale.run.run Equipment.plain.host World.binary = (.ok true, World.binary) ∧
      ∃ after, blank.apply.run.run Equipment.plain.host World.binary = (.ok true, after) ∧
        after.disk.read blank.path = .ok blank.bytes ∧
        blank.isStale.run.run Equipment.plain.host after = (.ok false, after) := by
  obtain ⟨⟨held, -, -⟩, result, after, ran, foretold⟩ :=
    staleness_foretells Equipment.plain.servesFiles blank World.binary
  have stale := held ⟨#[0xFF]⟩ rfl
  have differs : (⟨#[0xFF]⟩ : ByteArray) ≠ blank.bytes := by decide
  rw [decide_eq_true differs] at stale
  have written : (blank.apply.run.run Equipment.plain.host World.binary).1.toOption = some true := by
    decide +kernel
  rw [ran] at written
  rcases foretold.told true (congrArg Prod.fst stale) with rfl | ⟨-, fault, rfl⟩
  · obtain ⟨read, fresh, -⟩ := foretold.settled true rfl
    exact ⟨stale, after, ran, read, fresh⟩
  · cases written

end Artifact

end Upkeep
