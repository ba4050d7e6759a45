import Upkeep.Flags.File
import Upkeep.Proofs.Disk.Files

/-! Giving a flag a value. Either nothing is written, or the document that was loaded replaces the
file with that value put in; a replacement that fails leaves every file as it was. -/
namespace Upkeep.FlagFile

variable {f : FlagFile} {d d' : Disk} {name : String} {value : Bool} {now : Timestamp}

/-- Gives a flag a value, while `refuse` says which steps of writing the file the system refuses on
top of the disk's own reasons. -/
def setWith (refuse : Disk.ReplaceStep → Option Fault) (f : FlagFile) (now : Timestamp)
    (name : String) (value : Bool) (disk : Disk) : Disk × Except FlagFault FlagChange :=
  match f.load disk with
  | .error fault => (disk, .error fault)
  | .ok document =>
    if document.flags.get? name = some value then (disk, .ok .alreadySet)
    else
      let changed : Flags.Document := ⟨document.flags.insert name value, some now⟩
      match disk.replaceWith refuse f.path changed.print.toUTF8 mode with
      | (disk, .ok ()) => (disk, .ok .persisted)
      | (disk, .error fault) => (disk, .error (.unwritable f.path fault))

/-- Where the system refuses nothing, that is how a flag is given a value. -/
theorem setWith_none (f : FlagFile) (now : Timestamp) (name : String) (value : Bool) (d : Disk) :
    f.setWith (fun _ => none) now name value d = f.set now name value d :=
  rfl

/-- How giving a flag a value may go, with the disk that it leaves and its result. -/
inductive Setting (f : FlagFile) (now : Timestamp) (name : String) (value : Bool) (d : Disk) :
    Disk × Except FlagFault FlagChange → Prop where
  | unloaded {fault : FlagFault} (load : f.load d = .error fault) :
      Setting f now name value d (d, .error fault)
  | alreadySet {document : Flags.Document} (load : f.load d = .ok document)
      (same : document.flags.get? name = some value) : Setting f now name value d (d, .ok .alreadySet)
  | persisted {document : Flags.Document} {d' : Disk} (load : f.load d = .ok document)
      (replacing : Disk.Replacing d f.path
        (Flags.Document.print ⟨document.flags.insert name value, some now⟩).toUTF8 mode (d', .ok ())) :
      Setting f now name value d (d', .ok .persisted)
  | refused {document : Flags.Document} {d' : Disk} {fault : Fault} (load : f.load d = .ok document)
      (replacing : Disk.Replacing d f.path
        (Flags.Document.print ⟨document.flags.insert name value, some now⟩).toUTF8 mode
        (d', .error fault)) :
      Setting f now name value d (d', .error (.unwritable f.path fault))

theorem setting (refuse : Disk.ReplaceStep → Option Fault) (f : FlagFile) (now : Timestamp)
    (name : String) (value : Bool) (d : Disk) :
    Setting f now name value d (f.setWith refuse now name value d) := by
  unfold setWith
  cases load : f.load d with
  | error fault => exact .unloaded load
  | ok document =>
    simp only
    split
    · rename_i same
      exact .alreadySet load same
    · have replacing := Disk.replacing refuse d f.path
        (Flags.Document.print ⟨document.flags.insert name value, some now⟩).toUTF8 mode
      generalize Disk.replaceWith refuse d f.path _ mode = outcome at replacing
      obtain ⟨d', fault | done⟩ := outcome
      · exact .refused load replacing
      · exact .persisted load replacing

namespace Setting

/-- A value that could not be given to a flag has at most made directories. -/
theorem extends_of_error {fault : FlagFault} (setting : Setting f now name value d (d', .error fault)) :
    Disk.Extends d d' := by
  cases setting with
  | unloaded load => exact .refl d
  | refused load replacing =>
    cases replacing with
    | failed grown fault => exact grown

end Setting

/-- A value that could not be given to a flag has left nothing, or the directories above the file. -/
theorem eq_of_setWith_error {refuse : Disk.ReplaceStep → Option Fault} {fault : FlagFault}
    (failed : f.setWith refuse now name value d = (d', .error fault)) :
    d' = d ∨ d' = (d.makeDirectories f.path.directory).1 := by
  unfold setWith at failed
  split at failed
  · cases failed
    exact .inl rfl
  · simp only at failed
    split at failed
    · cases failed
    · split at failed
      · cases failed
      · rename_i refused
        cases failed
        exact Disk.eq_of_refused refused

/-- A value that a flag does not have yet can always fail to be given to it once these directories have
been made. -/
theorem exists_setWith_error {document : Flags.Document} (load : f.load d = .ok document)
    (other : document.flags.get? name ≠ some value) (now : Timestamp) :
    ∃ refuse fault,
      f.setWith refuse now name value d = ((d.makeDirectories f.path.directory).1, .error fault) := by
  obtain ⟨refuse, fault, refused⟩ := Disk.exists_refused d f.path
    (Flags.Document.print ⟨document.flags.insert name value, some now⟩).toUTF8 mode
  exact ⟨refuse, .unwritable f.path fault, by simp only [setWith, load, other, ↓reduceIte, refused]⟩

end Upkeep.FlagFile
