import Upkeep.Proofs.Ensures

/-! The stages of a reconciliation: the views that it goes through when nothing is refused, and what
is asked for on the way. How a stage differs from the start depends only on which file is not as it
shall be and on which flag is pending. -/
namespace Upkeep

/-- The files lie where the service has them. -/
structure ServiceFiles.LieAt (files : ServiceFiles) (l : Layout) : Prop where
  unit : files.unit.path = l.unitPath
  settings : files.settings.path = l.configPath

/-- What is served when the files are in place. -/
def ServiceFiles.served (files : ServiceFiles) : ServedFiles :=
  ⟨some files.unit.bytes, some files.settings.bytes⟩

@[simp]
theorem ServiceFiles.unit_served (files : ServiceFiles) :
    files.served.unit = some files.unit.bytes :=
  rfl

namespace View

variable (v : View) (files : ServiceFiles)

/-- Whether the unit is not as it shall be. -/
def unitStale : Bool :=
  v.files.unit != some files.unit.bytes

/-- Whether the settings are not as they shall be. -/
def settingsStale : Bool :=
  v.files.settings != some files.settings.bytes

/-- Whether a file is not as it shall be. -/
def isStale : Bool :=
  v.unitStale files || v.settingsStale files

/-- Whether the units are to be read again. -/
def mustReload : Bool :=
  v.unitStale files || v.flags.isSet Flags.reloadPending

/-- Whether the service is to be restarted. -/
def mustRestart : Bool :=
  v.isStale files || v.flags.isSet Flags.restartPending

/-- The view when the flag for the units is set as far as that is due. -/
def reloadMarked : View :=
  { v with
    flags := if v.unitStale files then v.flags.insert Flags.reloadPending true else v.flags }

/-- The view when both flags are set as far as that is due. -/
def marked : View :=
  { v with
    flags := if v.isStale files then (v.reloadMarked files).flags.insert Flags.restartPending true
      else v.flags }

/-- The view when the unit is in place as well. -/
def unitWritten : View :=
  { v.marked files with files := ⟨some files.unit.bytes, v.files.settings⟩ }

/-- The view when both files are in place. -/
def written : View :=
  { v.marked files with files := files.served }

@[simp]
theorem files_written : (v.written files).files = files.served :=
  rfl

/-- The view when the units have been read again as far as that is due. -/
def reloaded : View :=
  { v.written files with loaded := if v.mustReload files then some files.unit.bytes else v.loaded }

/-- The view when the service has been restarted. -/
def restarted : View :=
  { v.reloaded files with started := files.served }

/-- The view when the service is known to be configured. -/
def configured : View :=
  { v.restarted files with flags := (v.marked files).flags.insert Flags.configured true }

/-- The view when no reload is pending any more. -/
def reloadCleared : View :=
  { v.restarted files with flags := (v.configured files).flags.insert Flags.reloadPending false }

/-- The view when no restart is pending any more. -/
def settled : View :=
  { v.restarted files with flags := (v.reloadCleared files).flags.insert Flags.restartPending false }

/-- The files that are replaced. -/
def staleWrites : List Path :=
  (if v.unitStale files then [files.unit.path] else []) ++
    (if v.settingsStale files then [files.settings.path] else [])

/-- The flags that are set before anything is written. -/
def pendingMarks : List (String × Bool) :=
  (if v.unitStale files then [(Flags.reloadPending, true)] else []) ++
    (if v.isStale files then [(Flags.restartPending, true)] else [])

/-- What is asked for until both files are in place. -/
def preparation : Footprint :=
  { reads := [files.unit.path, files.settings.path, files.unit.path, files.settings.path]
    writes := v.staleWrites files
    marks := v.pendingMarks files }

/-- The commands of a restart, of which the last one went as told. -/
def restartCommands (s : Service) (answer : Except ServiceFault Unit) :
    List (ServiceCommand × Except ServiceFault Unit) :=
  (if v.mustReload files then [(.reloadUnits, .ok ())] else []) ++
    [(.restart s.layout.serviceName, answer)]

/-- What is asked for until all is done. -/
def completion (s : Service) : Footprint :=
  { v.preparation files with
    marks := v.pendingMarks files ++
      [(Flags.configured, true), (Flags.reloadPending, false), (Flags.restartPending, false)]
    commands := v.restartCommands files s (.ok ())
    reports := [(.active, WorkloadState.readyMessage)] }

variable {v files} {w : View} {l : Layout}

theorem mustReload_of_unitStale (stale : v.unitStale files = true) : v.mustReload files = true := by
  simp only [mustReload, stale, Bool.true_or]

theorem mustRestart_of_unitStale (stale : v.unitStale files = true) :
    v.mustRestart files = true := by
  simp only [mustRestart, isStale, stale, Bool.true_or]

theorem mustRestart_of_settingsStale (stale : v.settingsStale files = true) :
    v.mustRestart files = true := by
  simp only [mustRestart, isStale, stale, Bool.true_or, Bool.or_true]

theorem mustReload_iff : v.mustReload files = true ↔
    v.files.unit ≠ some files.unit.bytes ∨ v.flags.isSet Flags.reloadPending = true := by
  simp only [mustReload, unitStale, Bool.or_eq_true, bne_iff_ne]

theorem mustReload_eq_false_iff : v.mustReload files = false ↔
    v.files.unit = some files.unit.bytes ∧ v.flags.isSet Flags.reloadPending = false := by
  simp only [mustReload, unitStale, Bool.or_eq_false_iff, bne_eq_false_iff_eq]

theorem mustRestart_iff : v.mustRestart files = true ↔
    v.files.unit ≠ some files.unit.bytes ∨ v.files.settings ≠ some files.settings.bytes ∨
      v.flags.isSet Flags.restartPending = true := by
  simp only [mustRestart, isStale, unitStale, settingsStale, Bool.or_eq_true, bne_iff_ne, or_assoc]

/-- No restart is due when both files are in place and none is pending. -/
theorem mustRestart_eq_false_iff : v.mustRestart files = false ↔
    v.files = files.served ∧ v.flags.isSet Flags.restartPending = false := by
  simp only [mustRestart, isStale, unitStale, settingsStale, Bool.or_eq_false_iff,
    bne_eq_false_iff_eq, ServiceFiles.served, ServedFiles.ext_iff]

theorem isStale_of_not_due (settled : v.mustRestart files = false) : v.isStale files = false := by
  simp only [mustRestart, Bool.or_eq_false_iff] at settled
  exact settled.1

/-! ### Flags along the stages -/

theorem isSet_restartPending_marked :
    (v.marked files).flags.isSet Flags.restartPending = v.mustRestart files := by
  cases stale : v.isStale files <;> simp [marked, mustRestart, Flags.isSet_insert, stale]

theorem isSet_reloadPending_marked :
    (v.marked files).flags.isSet Flags.reloadPending = v.mustReload files := by
  cases unit : v.unitStale files <;> cases settings : v.settingsStale files <;>
    simp [marked, reloadMarked, isStale, mustReload, Flags.isSet_insert, unit, settings]

/-- Marking what is pending concerns no other flag. -/
theorem isSet_marked_of_ne {name : String} (reload : name ≠ Flags.reloadPending)
    (restart : name ≠ Flags.restartPending) :
    (v.marked files).flags.isSet name = v.flags.isSet name := by
  simp only [marked, reloadMarked]
  split <;> try split
  all_goals simp only [Flags.isSet_insert, reload.symm, restart.symm, ↓reduceIte]

/-- The flag for the restart stays set until it is cleared. -/
theorem pending_until_cleared (due : v.mustRestart files = true) :
    (v.restarted files).flags.isSet Flags.restartPending = true ∧
      (v.configured files).flags.isSet Flags.restartPending = true ∧
      (v.reloadCleared files).flags.isSet Flags.restartPending = true := by
  have pending : (v.marked files).flags.isSet Flags.restartPending = true :=
    isSet_restartPending_marked.trans due
  have kept : (v.configured files).flags.isSet Flags.restartPending = true := by
    simpa [View.configured, Flags.isSet_insert, Flags.restartPending_ne_configured.symm] using
      pending
  refine ⟨pending, kept, ?_⟩
  simpa [reloadCleared, Flags.isSet_insert, Flags.restartPending_ne_reloadPending.symm] using kept

theorem isSet_settled (name : String) : (v.settled files).flags.isSet name =
    if Flags.restartPending = name then false
    else if Flags.reloadPending = name then false
    else if Flags.configured = name then true
    else v.flags.isSet name := by
  simp only [settled, reloadCleared, configured, Flags.isSet_insert]
  split
  · rfl
  · rename_i restart
    split
    · rfl
    · rename_i reload
      rw [isSet_marked_of_ne (Ne.symm reload) (Ne.symm restart)]

@[simp]
theorem isSet_restartPending_settled :
    (v.settled files).flags.isSet Flags.restartPending = false := by
  rw [isSet_settled, if_pos rfl]

@[simp]
theorem isSet_reloadPending_settled :
    (v.settled files).flags.isSet Flags.reloadPending = false := by
  rw [isSet_settled, if_neg Flags.restartPending_ne_reloadPending, if_pos rfl]

@[simp]
theorem isSet_configured_settled : (v.settled files).flags.isSet Flags.configured = true := by
  rw [isSet_settled, if_neg Flags.restartPending_ne_configured,
    if_neg Flags.reloadPending_ne_configured, if_pos rfl]

/-- All stages together concern no flag but the three of the service. -/
theorem isSet_settled_of_ne {name : String} (configured : name ≠ Flags.configured)
    (reload : name ≠ Flags.reloadPending) (restart : name ≠ Flags.restartPending) :
    (v.settled files).flags.isSet name = v.flags.isSet name := by
  rw [isSet_settled, if_neg restart.symm, if_neg reload.symm, if_neg configured.symm]

/-- When all is done, no restart is due. -/
theorem settled_not_due (v : View) (files : ServiceFiles) :
    (v.settled files).mustRestart files = false := by
  exact mustRestart_eq_false_iff.mpr ⟨rfl, isSet_restartPending_settled⟩

/-! ### Units that are read again -/

theorem reloaded_of_due (stale : v.mustReload files = true) :
    v.reloaded files = { v.written files with loaded := some files.unit.bytes } := by
  simp only [reloaded, stale, ↓reduceIte]

theorem reloaded_of_not_due (fresh : v.mustReload files = false) :
    v.reloaded files = v.written files := by
  simp only [reloaded, fresh, Bool.false_eq_true, ↓reduceIte]
  rfl

/-! ### Files along the stages -/

theorem unitStale_eq (own : files.LieAt l) (same : w.files.unit = v.files.unit) :
    (w.content l files.unit.path != some files.unit.bytes) = v.unitStale files := by
  simp only [content, own.unit, ↓reduceIte, unitStale, same]

theorem settingsStale_eq (own : files.LieAt l) (distinct : l.unitPath ≠ l.configPath)
    (same : w.files.settings = v.files.settings) :
    (w.content l files.settings.path != some files.settings.bytes) = v.settingsStale files := by
  simp only [content, own.settings, distinct.symm, ↓reduceIte, settingsStale, same]

theorem store_unit (own : files.LieAt l) :
    (v.marked files).store l files.unit.path files.unit.bytes = v.unitWritten files := by
  simp only [store, own.unit, ↓reduceIte]
  rfl

theorem store_settings (own : files.LieAt l) (distinct : l.unitPath ≠ l.configPath) :
    (v.unitWritten files).store l files.settings.path files.settings.bytes = v.written files := by
  simp only [store, own.settings, distinct.symm, ↓reduceIte]
  rfl

/-- When no restart is due, nothing is to be marked or written. -/
theorem written_of_not_due (settled : v.mustRestart files = false) : v.written files = v := by
  have fresh := isStale_of_not_due settled
  simp only [written, marked, fresh, Bool.false_eq_true, ↓reduceIte,
    ← (mustRestart_eq_false_iff.mp settled).1]

theorem staleWrites_of_not_due (settled : v.mustRestart files = false) :
    v.staleWrites files = [] := by
  have fresh := isStale_of_not_due settled
  simp only [isStale, Bool.or_eq_false_iff] at fresh
  simp only [staleWrites, fresh, Bool.false_eq_true, ↓reduceIte, List.append_nil]

theorem pendingMarks_of_not_due (settled : v.mustRestart files = false) :
    v.pendingMarks files = [] := by
  have fresh := isStale_of_not_due settled
  have both := fresh
  simp only [isStale, Bool.or_eq_false_iff] at both
  simp only [pendingMarks, fresh, both.1, Bool.false_eq_true, ↓reduceIte, List.append_nil]

/-- A file that is as it shall be is not among those that are replaced. -/
theorem unitPath_not_mem_staleWrites (own : files.LieAt l) (distinct : l.unitPath ≠ l.configPath)
    (fresh : v.files.unit = some files.unit.bytes) : l.unitPath ∉ v.staleWrites files := by
  have inPlace : v.unitStale files = false := by simp [unitStale, fresh]
  simp only [staleWrites, inPlace, Bool.false_eq_true, ↓reduceIte, List.nil_append, own.settings]
  split <;> simp [distinct]

theorem configPath_not_mem_staleWrites (own : files.LieAt l) (distinct : l.unitPath ≠ l.configPath)
    (fresh : v.files.settings = some files.settings.bytes) :
    l.configPath ∉ v.staleWrites files := by
  have inPlace : v.settingsStale files = false := by simp [settingsStale, fresh]
  simp only [staleWrites, inPlace, Bool.false_eq_true, ↓reduceIte, List.append_nil, own.unit]
  split <;> simp [distinct.symm]

theorem getLast?_restartCommands (s : Service) (answer : Except ServiceFault Unit) :
    (v.restartCommands files s answer).getLast? = some (.restart s.layout.serviceName, answer) := by
  simp [restartCommands]

end View

end Upkeep
