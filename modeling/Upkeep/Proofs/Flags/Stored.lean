import Upkeep.Flags.File
import Upkeep.Proofs.Disk.Files
import Upkeep.Proofs.Json.RoundTrip

/-! Flags as a file holds them. The document that is written is read back, so giving one flag a
value leaves all others in the file as they were. Only where the path of the file leads nowhere,
although there is a file at its place, nothing is read, and what it held is lost. -/
namespace Upkeep

namespace Flags.Document

/-- A document has no numbers in it. -/
theorem numberless_toJson (d : Document) : Json.numberless d.toJson = true := by
  have flags (entries : List (String × Bool)) : Json.numberlessEntries
      (entries.map fun entry => (some entry.1, .bool entry.2)) = true := by
    induction entries with
    | nil => rfl
    | cons entry entries ih => exact ih
  obtain ⟨held, updatedAt⟩ := d
  simp only [toJson, Json.numberless, Json.numberlessEntries, flags]
  cases updatedAt with
  | none => rfl
  | some time => rfl

/-- The flags of a document are those of its object. -/
theorem flagsOf?_object (flags : Flags) :
    flagsOf? (.object (flags.toList.map fun entry => (some entry.1, .bool entry.2))) =
      some flags := by
  have each (entries : List (String × Bool)) : (entries.map fun entry =>
      (some entry.1, Json.Value.bool entry.2)).mapM flagOf? = some entries := by
    induction entries with
    | nil => rfl
    | cons entry entries ih =>
      rw [List.map_cons, List.mapM_cons, ih]
      rfl
  simp only [flagsOf?, each, Option.map_some, SortedMap.ofList_toList]

theorem timeOf?_text (time : Timestamp) : timeOf? (.text (some time.text)) = some (some time) := by
  simp only [timeOf?, Timestamp.ofText?, time.valid, ↓reduceDIte, Option.map_some]

theorem ofJson?_toJson (d : Document) : ofJson? d.toJson = some d := by
  obtain ⟨flags, updatedAt⟩ := d
  have read (time : Json.Value) (held : Option Timestamp) (reads : timeOf? time = some held) :
      ofJson? (.object [
        (some "flags", .object (flags.toList.map fun entry => (some entry.1, .bool entry.2))),
        (some "updated_at", time)]) = some ⟨flags, held⟩ := by
    change ((flagsOf? (.object _)).bind fun flags => (timeOf? time).bind fun updatedAt =>
      some (Document.mk flags updatedAt)) = _
    rw [flagsOf?_object, reads]
    rfl
  cases updatedAt with
  | none => exact read .null none rfl
  | some time => exact read _ (some time) (timeOf?_text time)

/-- A document that is printed is read back. -/
theorem read?_print (d : Document) : read? d.print = some d := by
  rw [read?, print, Json.Value.read?_print d.numberless_toJson]
  exact ofJson?_toJson d

end Flags.Document

namespace FlagFile

variable {f : FlagFile} {d d' : Disk} {name touched : String} {value v : Bool}
  {document : Flags.Document} {now : Timestamp} {result : Except Fault Unit}

/-- The document in the file at the place of the path. -/
def document? (f : FlagFile) (d : Disk) : Option Flags.Document := do
  let (_, content) ← d.file? f.path.place
  Flags.Document.read? (← String.fromUTF8? content)

/-- What the file says about a flag. -/
def stored? (f : FlagFile) (d : Disk) (name : String) : Option Bool := do
  (← f.document? d).flags.get? name

/-- The path of the file leads to it wherever there is one. -/
def IsReadable (f : FlagFile) (d : Disk) : Prop :=
  d.file? f.path.place ≠ none → ∃ content, d.content? f.path = some content

/-- The document in a file that holds a text is the one that is read from the text. -/
theorem document?_of_text {text : String} {mode : Nat}
    (written : d.file? f.path.place = some (mode, text.toUTF8)) :
    f.document? d = Flags.Document.read? text := by
  have decoded : String.fromUTF8? text.toUTF8 = some text := Text.fromUTF8?_eq_some.mpr rfl
  unfold document?
  rw [written]
  change (String.fromUTF8? text.toUTF8).bind Flags.Document.read? = _
  rw [decoded]
  rfl

theorem document?_of_written {mode : Nat}
    (written : d.file? f.path.place = some (mode, document.print.toUTF8)) :
    f.document? d = some document :=
  (document?_of_text written).trans document.read?_print

theorem stored?_congr (same : d'.file? f.path.place = d.file? f.path.place) :
    f.stored? d' name = f.stored? d name := by
  simp only [stored?, document?, same]

/-- What is loaded is the document in the file, or there is none to be read. -/
theorem document?_of_load (loaded : f.load d = .ok document) :
    f.document? d = some document ∨ d.content? f.path = none ∧ document = .empty := by
  unfold load Disk.readText at loaded
  cases read : d.read f.path with
  | error fault =>
    have unread : d.content? f.path = none := by
      rw [Disk.content?, read]
      rfl
    simp only [read, bind, Except.bind] at loaded
    split at loaded
    · rename_i text impossible
      cases impossible
    · cases loaded
      exact .inr ⟨unread, rfl⟩
    · cases loaded
  | ok content =>
    obtain ⟨mode, file⟩ := Disk.file?_of_content? (Disk.content?_eq_some.mpr read)
    simp only [read, bind, Except.bind] at loaded
    cases text : String.fromUTF8? content with
    | none => simp [text, throw, throwThe, MonadExceptOf.throw] at loaded
    | some text' =>
      simp only [text, pure, Except.pure] at loaded
      split at loaded
      · rename_i found reads
        cases loaded
        refine .inl ?_
        unfold document?
        rw [file]
        change (String.fromUTF8? content).bind _ = _
        rw [text]
        exact reads
      · cases loaded

/-- The file spares a flag: it does not come to hold it, and where its path leads to it, it holds it
as before. -/
structure Spares (f : FlagFile) (name : String) (d d' : Disk) : Prop where
  never_made : ∀ v, f.stored? d' name = some v → f.stored? d name = some v
  kept : f.IsReadable d → f.IsReadable d' ∧ f.stored? d' name = f.stored? d name

namespace Spares

theorem refl (f : FlagFile) (name : String) (d : Disk) : f.Spares name d d where
  never_made _ := id
  kept readable := ⟨readable, rfl⟩

theorem trans {d'' : Disk} (first : f.Spares name d d') (second : f.Spares name d' d'') :
    f.Spares name d d'' where
  never_made v held := first.never_made v (second.never_made v held)
  kept readable := by
    obtain ⟨still, before⟩ := first.kept readable
    obtain ⟨again, after⟩ := second.kept still
    exact ⟨again, after.trans before⟩

/-- The same file on a disk with no fewer entries spares all flags. -/
theorem of_same_file (passable : Disk.Passable d d')
    (same : d'.file? f.path.place = d.file? f.path.place) : f.Spares name d d' where
  never_made v held := by rwa [stored?_congr same] at held
  kept readable := by
    refine ⟨?_, stored?_congr same⟩
    intro there
    rw [same] at there
    obtain ⟨content, found⟩ := readable there
    exact ⟨content, passable.content?_eq same found⟩

/-- Giving one flag a value spares the others. -/
theorem of_replacing {mode : Nat} (loaded : f.load d = .ok document)
    (replacing : Disk.Replacing d f.path
      (Flags.Document.print ⟨document.flags.insert touched value, some now⟩).toUTF8 mode (d', result))
    (other : touched ≠ name) : f.Spares name d d' := by
  cases replacing with
  | failed grown fault => exact of_same_file grown.passable grown.file?_eq
  | done grown placed =>
    have after : f.stored? d' name = document.flags.get? name := by
      rw [stored?, document?_of_written placed.file?_self]
      exact (SortedMap.get?_insert document.flags touched name value).trans (if_neg other)
    rcases document?_of_load loaded with there | ⟨unread, rfl⟩
    · have before : f.stored? d name = document.flags.get? name := by
        rw [stored?, there]
        rfl
      constructor
      · intro v held
        rwa [before, ← after]
      · intro readable
        exact ⟨fun _ => ⟨_, placed.content?_self⟩, after.trans before.symm⟩
    -- Nothing was read, so the new document holds no other flag, whatever the old one held.
    · constructor
      · intro v held
        rw [after] at held
        cases held
      · intro readable
        have nothing : d.file? f.path.place = none := by
          by_cases there : d.file? f.path.place = none
          · exact there
          · obtain ⟨content, found⟩ := readable there
            cases unread.symm.trans found
        have before : f.stored? d name = none := by
          simp only [stored?, document?, nothing, bind, Option.bind]
        exact ⟨fun _ => ⟨_, placed.content?_self⟩, after.trans before.symm⟩

end Spares

end FlagFile

end Upkeep
