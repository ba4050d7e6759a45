import Upkeep.Proofs.Flags.Setting
import Upkeep.Proofs.Flags.Stored
import Upkeep.Reconcile.Rehearsal

/-! A file keeps flags as memory does. Whatever form the file has at first, operations that follow
one another are answered as by flags in memory that start with those of the file, as long as all
that is to be written gets written. Each operation goes through the text of the file, so what is
printed has to be read back however the flags are called. -/
namespace Upkeep

namespace FlagFile

variable {f : FlagFile} {d d' : Disk} {name other : String} {value : Bool} {now : Timestamp}
  {document : Flags.Document} {change : FlagChange}

/-- A document that has been put in place is the one that is loaded. -/
theorem load_of_content? (found : d.content? f.path = some document.print.toUTF8) :
    f.load d = .ok document := by
  have text : d.readText f.path = .ok document.print := by
    have decoded : String.fromUTF8? document.print.toUTF8 = some document.print :=
      Text.fromUTF8?_eq_some.mpr rfl
    simp only [Disk.readText, Disk.content?_eq_some.mp found, bind, Except.bind, decoded]
    rfl
  unfold load
  rw [text]
  simp only [document.read?_print]

/-- After a flag was given a value, the flags that are loaded are those from before with that value
put in. -/
theorem load_of_set (load : f.load d = .ok document)
    (done : f.set now name value d = (d', .ok change)) :
    ∃ changed, f.load d' = .ok changed ∧ changed.flags = document.flags.insert name value := by
  have setting := setting (fun _ => none) f now name value d
  rw [setWith_none, done] at setting
  cases setting with
  | alreadySet before same =>
    cases load.symm.trans before
    refine ⟨document, load, SortedMap.ext fun other => ?_⟩
    rw [SortedMap.get?_insert]
    split
    · rename_i named
      rw [← named, same]
    · rfl
  | persisted before replacing =>
    cases load.symm.trans before
    cases replacing with
    | done grown placed => exact ⟨_, load_of_content? placed.content?_self, rfl⟩

end FlagFile

namespace FlagStore

/-- What a store of flags is used for. -/
inductive Operation where
  | set (name : String) (value : Bool)
  | get (name : String)
  | active
  /-- To tell how far the maintenance has come. -/
  | progress
  /-- To begin anew with what is kept. -/
  | reopen
  deriving DecidableEq, Repr

/-- What an operation comes to. -/
inductive Reply where
  | done
  | flag (value : Bool)
  | names (names : List String)
  | progress (progress : Progress)
  deriving DecidableEq, Repr

/-- The store when it is opened again. A file is opened by its path. -/
def reopened : FlagStore → FlagStore
  | memory flags => memory flags
  | file f => file ⟨f.path⟩

/-- Performs an operation. -/
def perform (s : FlagStore) (disk : Disk) (now : Timestamp) :
    Operation → FlagStore × Disk × Except FlagFault Reply
  | .set name value =>
    let (s, disk, result) := s.set now name value disk
    (s, disk, result.map fun () => .done)
  | .get name => (s, disk, (s.get name disk).map .flag)
  | .active => (s, disk, (s.active disk).map .names)
  | .progress => (s, disk, (s.progress disk).map .progress)
  | .reopen => (s.reopened, disk, .ok .done)

/-- What operations come to that follow one another, each at a time of its own. -/
def replies (s : FlagStore) (disk : Disk) :
    List (Timestamp × Operation) → List (Except FlagFault Reply)
  | [] => []
  | (now, operation) :: rest =>
    let (s, disk, reply) := s.perform disk now operation
    reply :: s.replies disk rest

/-- The store and the disk after the operations. -/
def after (s : FlagStore) (disk : Disk) : List (Timestamp × Operation) → FlagStore × Disk
  | [] => (s, disk)
  | (now, operation) :: rest =>
    let (s, disk, _) := s.perform disk now operation
    s.after disk rest

/-- Whether the disk refused to take what was to be written. -/
def isUnwritten : Except FlagFault Reply → Bool
  | .error (.unwritable _ _) => true
  | _ => false

/-- A store answers as these flags do. -/
inductive Shows (d : Disk) (flags : Flags) : FlagStore → Prop where
  | file {f : FlagFile} {document : Flags.Document} (load : f.load d = .ok document)
      (same : document.flags = flags) : Shows d flags (.file f)

variable {s : FlagStore} {d : Disk} {flags : Flags} {now : Timestamp} {operation : Operation}
  {operations : List (Timestamp × Operation)}

namespace Shows

theorem get_eq (shows : Shows d flags s) (name : String) :
    s.get name d = .ok (flags.isSet name) := by
  obtain ⟨load, rfl⟩ := shows
  simp only [FlagStore.get, FlagFile.get, load, Except.map]

theorem active_eq (shows : Shows d flags s) : s.active d = .ok flags.active := by
  obtain ⟨load, rfl⟩ := shows
  simp only [FlagStore.active, FlagFile.active, load, Except.map]

theorem progress_eq (shows : Shows d flags s) :
    s.progress d = .ok (.ofFlag (flags.isSet Flags.configured)) := by
  rw [progress, shows.get_eq]
  rfl

/-- A value that could be given to a flag is put into the flags that the store shows. -/
theorem set {s' : FlagStore} {d' : Disk} {name : String} {value : Bool} (shows : Shows d flags s)
    (done : s.set now name value d = (s', d', .ok ())) : Shows d' (flags.insert name value) s' := by
  obtain ⟨load, rfl⟩ := shows
  rename_i f document
  simp only [FlagStore.set] at done
  cases changed : f.set now name value d with
  | mk d'' result =>
    rw [changed] at done
    cases result with
    | error fault => cases done
    | ok change =>
      cases done
      obtain ⟨document, load, same⟩ := FlagFile.load_of_set load changed
      exact .file load same

/-- Only the disk can refuse a value for a flag of a store that shows its flags. -/
theorem unwritten_of_refused {s' : FlagStore} {d' : Disk} {name : String} {value : Bool}
    {fault : FlagFault} (shows : Shows d flags s)
    (refused : s.set now name value d = (s', d', .error fault)) :
    isUnwritten (.error fault) = true := by
  obtain ⟨load, rfl⟩ := shows
  rename_i f document
  have setting := FlagFile.setting (fun _ => none) f now name value d
  simp only [FlagStore.set] at refused
  cases changed : f.set now name value d with
  | mk d'' result =>
    rw [changed] at refused
    rw [FlagFile.setWith_none, changed] at setting
    cases setting with
    | unloaded other => cases load.symm.trans other
    | alreadySet load same => cases refused
    | persisted load replacing => cases refused
    | refused load replacing =>
      cases refused
      rfl

theorem reopened (shows : Shows d flags s) : Shows d flags s.reopened := by
  obtain ⟨load, same⟩ := shows
  exact .file load same

end Shows

/-- One operation is answered as by flags in memory, and leaves the store showing those flags. -/
theorem Shows.perform (shows : Shows d flags s)
    (written : isUnwritten (s.perform d now operation).2.2 = false) :
    ∃ s' d' flags' reply, s.perform d now operation = (s', d', reply) ∧
      (memory flags).perform ∅ now operation = (memory flags', ∅, reply) ∧ Shows d' flags' s' := by
  cases operation with
  | set name value =>
    simp only [FlagStore.perform] at written
    cases changed : s.set now name value d with
    | mk s' rest =>
      obtain ⟨d', fault | done⟩ := rest
      · rw [changed] at written
        cases (shows.unwritten_of_refused changed).symm.trans written
      · refine ⟨s', d', flags.insert name value, .ok .done, ?_, rfl, shows.set changed⟩
        simp only [FlagStore.perform, changed]
        rfl
  | get name =>
    refine ⟨s, d, flags, .ok (.flag (flags.isSet name)), ?_, rfl, shows⟩
    simp only [FlagStore.perform, shows.get_eq]
    rfl
  | active =>
    refine ⟨s, d, flags, .ok (.names flags.active), ?_, rfl, shows⟩
    simp only [FlagStore.perform, shows.active_eq]
    rfl
  | progress =>
    refine ⟨s, d, flags, .ok (.progress (.ofFlag (flags.isSet Flags.configured))), ?_, rfl, shows⟩
    simp only [FlagStore.perform, shows.progress_eq]
    rfl
  | reopen => exact ⟨s.reopened, d, flags, .ok .done, rfl, rfl, shows.reopened⟩

/-- Operations that follow one another are answered as by flags in memory, and leave the store
showing some flags. -/
theorem Shows.replies_eq (shows : Shows d flags s)
    (written : (s.replies d operations).any isUnwritten = false) :
    s.replies d operations = (memory flags).replies ∅ operations ∧
      ∃ flags', Shows (s.after d operations).2 flags' (s.after d operations).1 := by
  induction operations generalizing s d flags with
  | nil => exact ⟨rfl, flags, shows⟩
  | cons operation rest ih =>
    obtain ⟨now, operation⟩ := operation
    simp only [replies, List.any_cons, Bool.or_eq_false_iff] at written
    obtain ⟨s', d', flags', reply, performed, recalled, shows⟩ := shows.perform written.1
    rw [performed] at written
    obtain ⟨same, reached⟩ := ih shows written.2
    simp only [replies, after, performed, recalled, same, true_and]
    exact reached

end FlagStore

namespace Flags

variable {flags : Flags}

theorem mem_active {name : String} : name ∈ flags.active ↔ flags.isSet name = true := by
  have set : flags.isSet name = true ↔ (name, true) ∈ flags.toList := by
    rw [SortedMap.mem_toList_iff, isSet]
    cases flags.get? name <;> simp
  rw [set, active, List.mem_map]
  constructor
  · rintro ⟨⟨other, value⟩, member, rfl⟩
    obtain ⟨member, isTrue⟩ := List.mem_filter.mp member
    obtain rfl : value = true := isTrue
    exact member
  · intro member
    exact ⟨(name, true), List.mem_filter.mpr ⟨member, rfl⟩, rfl⟩

/-- The names of the flags that are set ascend strictly, so none is listed twice. -/
theorem ascending_active (flags : Flags) : flags.active.Pairwise (· < ·) :=
  List.pairwise_map.mpr (flags.ascending.filter _)

end Flags

namespace FlagStore

variable {f : FlagFile} {d : Disk} {document : Flags.Document}
  {operations : List (Timestamp × Operation)}

/-- A file that could be read answers all operations as flags in memory that start with its own do,
until the disk refuses a write. Wherever the operations lead, the names that are listed ascend
strictly and are those of the flags that are set, and giving one flag a value changes no other. -/
theorem file_refines_memory (load : f.load d = .ok document)
    (written : ((file f).replies d operations).any isUnwritten = false) :
    (file f).replies d operations = (memory document.flags).replies ∅ operations ∧
      ∃ s d', (file f).after d operations = (s, d') ∧
        (∃ names, s.active d' = .ok names ∧ names.Pairwise (· < ·) ∧
          ∀ name, name ∈ names ↔ s.get name d' = .ok true) ∧
        ∀ now name value s'' d'', s.set now name value d' = (s'', d'', .ok ()) →
          s''.get name d'' = .ok value ∧
            ∀ other, other ≠ name → s''.get other d'' = s.get other d' := by
  obtain ⟨same, flags, shows⟩ := (Shows.file load rfl).replies_eq written
  refine ⟨same, _, _, rfl, ?_, ?_⟩
  · refine ⟨flags.active, shows.active_eq, flags.ascending_active, fun name => ?_⟩
    rw [Flags.mem_active, shows.get_eq, Except.ok.injEq]
  · intro now name value s'' d'' done
    have changed := shows.set done
    constructor
    · rw [changed.get_eq, Flags.isSet_insert, if_pos rfl]
    · intro other apart
      rw [changed.get_eq, shows.get_eq, Flags.isSet_insert, if_neg apart.symm]

end FlagStore

/-- A disk with flags that someone wrote by hand: an array, a name with escapes, and another name
twice. -/
def Disk.handwritten : Disk :=
  (∅ : Disk).put ⟨false, ["flags.json"]⟩ (.file 0o644
    "[ \x7b\"b\\u0022\":true, \"a\":true, \"a\" : false\x7d ]\n".toUTF8)

namespace FlagStore

/-- Flags are added to those that someone wrote by hand, one of them with a quote, a backslash and
a line feed in its name. -/
def additions : List (Timestamp × Operation) :=
  let now : Timestamp := ⟨"2024-01-01T00:00:00Z", Timestamp.isValid_newYear⟩
  [.active, .set "\"\\\n" true, .reopen, .get "b\"", .active].map (now, ·)

theorem additions_refine :
    ∃ document, (⟨⟨"flags.json"⟩⟩ : FlagFile).load .handwritten = .ok document ∧
      ((file ⟨⟨"flags.json"⟩⟩).replies .handwritten additions).any isUnwritten = false ∧
      (file ⟨⟨"flags.json"⟩⟩).replies .handwritten additions =
        (memory document.flags).replies ∅ additions ∧
      ((file ⟨⟨"flags.json"⟩⟩).replies .handwritten additions).map Except.toOption =
        [some (.names ["b\""]), some .done, some .done, some (.flag true),
          some (.names ["\"\\\n", "b\""])] := by
  have loads : ((⟨⟨"flags.json"⟩⟩ : FlagFile).load .handwritten).toOption.isSome = true := by
    decide +kernel
  have answered : ((file ⟨⟨"flags.json"⟩⟩).replies .handwritten additions).map Except.toOption =
      [some (.names ["b\""]), some .done, some .done, some (.flag true),
        some (.names ["\"\\\n", "b\""])] := by
    decide +kernel
  have written : ((file ⟨⟨"flags.json"⟩⟩).replies .handwritten additions).any isUnwritten =
      false := by
    have each : ∀ answer ∈ ((file ⟨⟨"flags.json"⟩⟩).replies .handwritten additions).map
        Except.toOption, answer.isSome = true := by
      rw [answered]
      decide
    rw [List.any_eq_false]
    intro reply member
    have answers := each _ (List.mem_map_of_mem member)
    cases reply with
    | ok reply => exact Bool.false_ne_true
    | error fault => cases answers
  cases load : (⟨⟨"flags.json"⟩⟩ : FlagFile).load .handwritten with
  | error fault =>
    rw [load] at loads
    cases loads
  | ok document => exact ⟨document, rfl, written, (file_refines_memory load written).1, answered⟩

end FlagStore

end Upkeep
