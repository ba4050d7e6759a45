import Upkeep.Flags.Basic
import Upkeep.Json.Reader
import Upkeep.Json.Value
import Upkeep.Timestamp

/-! The document in which flags are kept in a file: an object of two fields, the flags and the
time of the last change. An array of the two is read as well, and both may be left out. -/
namespace Upkeep.Flags

/-- Flags and when they were changed. -/
structure Document where
  /-- The flags. -/
  flags : Flags
  /-- When they were last changed. -/
  updatedAt : Option Timestamp

namespace Document

/-- The document of a file that is not there. -/
def empty : Document :=
  ⟨∅, none⟩

/-- The flag of an entry. -/
def flagOf? : Option String × Json.Value → Option (String × Bool)
  | (some name, .bool value) => some (name, value)
  | _ => none

/-- The flags of a JSON value; of a name that occurs twice the last value counts. -/
def flagsOf? : Json.Value → Option Flags
  | .object entries => (entries.mapM flagOf?).map SortedMap.ofList
  | _ => none

/-- The time of a JSON value, which may be null. -/
def timeOf? : Json.Value → Option (Option Timestamp)
  | .null => some none
  | .text (some text) => (Timestamp.ofText? text).map some
  | _ => none

/-- What a field that must not occur twice holds. -/
def single? {α : Type} (otherwise : α) (read? : Json.Value → Option α) :
    List Json.Value → Option α
  | [] => some otherwise
  | [value] => read? value
  | _ => none

/-- The document of a JSON value. Fields of other names are ignored. -/
def ofJson? : Json.Value → Option Document
  | .object entries => do
    if entries.any fun entry => entry.1.isNone then none
    let flags ← single? ∅ flagsOf? (Json.Value.fieldsNamed entries "flags")
    let updatedAt ← single? none timeOf? (Json.Value.fieldsNamed entries "updated_at")
    return ⟨flags, updatedAt⟩
  | .array [] => some empty
  | .array [flags] => do return ⟨← flagsOf? flags, none⟩
  | .array [flags, updatedAt] => do return ⟨← flagsOf? flags, ← timeOf? updatedAt⟩
  | _ => none

/-- Reads a document. -/
def read? (source : String) : Option Document := do
  ofJson? (← Json.Value.read? source)

/-- A document as a JSON value. -/
def toJson (d : Document) : Json.Value :=
  .object [
    (some "flags", .object (d.flags.toList.map fun (name, value) => (some name, .bool value))),
    (some "updated_at", match d.updatedAt with
      | some time => .text (some time.text)
      | none => .null)]

/-- Writes a document. -/
def print (d : Document) : String :=
  d.toJson.print

end Document

end Upkeep.Flags
