import Upkeep.Text.Cut
import Upkeep.Yaml.Reader

/-! The database the service talks to: one primary and any number of standby servers, each
named by a URI. URIs carry passwords, so an error about one shows it masked. -/
namespace Upkeep

/-- The text of a URI with its password replaced by `****`. The password stands between the
first colon after the scheme and the last `@`; a URI without one is left as it is. -/
def maskUri (uri : String) : String :=
  match Text.cutFirst [':', '/', '/'] uri.toList with
  | none => uri
  | some (scheme, rest) =>
    match Text.cutLast '@' rest with
    | none => uri
    | some (userInfo, host) =>
      match Text.cutFirst [':'] userInfo with
      | none => uri
      | some (user, _) =>
        String.ofList (scheme ++ [':', '/', '/'] ++ user ++ [':', '*', '*', '*', '*', '@'] ++ host)

/-- Whether a URI has one of the two schemes of the database. -/
def hasDatabaseScheme (uri : String) : Bool :=
  uri.startsWith "postgres://" || uri.startsWith "postgresql://"

/-- The servers of the database. -/
structure Database where
  /-- The server that takes writes. -/
  primary : String
  /-- The servers that only read, in the order given. -/
  standbys : List String
  deriving DecidableEq, Repr

namespace Database

/-- All URIs, in the order in which they are checked. -/
def uris (d : Database) : List String :=
  d.primary :: d.standbys

/-- The first URI whose scheme is not the database's. -/
def firstForeign? (d : Database) : Option String :=
  d.uris.find? fun uri => !hasDatabaseScheme uri

/-- A database whose URIs all have the right scheme, or else the first URI that has not. -/
def check (d : Database) : Except String Database :=
  match d.firstForeign? with
  | some uri => .error uri
  | none => .ok d

/-! ## Reading

The database in a YAML document is a mapping with a `primary` and perhaps `standbys`. A URI is
the literal text of any scalar, whatever its tag. Other keys are ignored together with what
stands under them. -/

open Yaml (Document Following Node)

/-- The fields of a database that a document may give, as far as they have been read. -/
structure Fields where
  primary : Option String
  standbys : Option (List String)

/-- The literal text of a scalar. -/
def literal (d : Document) (node : Node) : Following String := do
  match ← d.follow node with
  | .scalar _ _ text => return text
  | _ => throw .wrongKind

/-- The literal texts of a sequence of scalars. An empty plain scalar is an empty sequence. -/
def literals (d : Document) (node : Node) : Following (List String) := do
  match ← d.follow node with
  | .sequence _ items => items.mapM (literal d)
  | .scalar _ .plain "" => return []
  | _ => throw .wrongKind

namespace Fields

/-- Reads one entry of the document. A field must not be given twice. -/
def read (d : Document) (fields : Fields) (entry : Node × Node) : Following Fields := do
  match ← literal d entry.1, fields with
  | "primary", ⟨none, _⟩ => return { fields with primary := some (← literal d entry.2) }
  | "primary", _ => throw .repeatedKey
  | "standbys", ⟨_, none⟩ => return { fields with standbys := some (← literals d entry.2) }
  | "standbys", _ => throw .repeatedKey
  | _, _ => return fields

end Fields

/-- The database of a document's root. -/
def ofNode (d : Document) (root : Node) : Following Database := do
  match ← d.follow root with
  | .mapping _ entries =>
    match ← entries.foldlM (Fields.read d) ⟨none, none⟩ with
    | ⟨some primary, standbys⟩ => return ⟨primary, standbys.getD []⟩
    | ⟨none, _⟩ => throw .missingField
  | _ => throw .wrongKind

/-- Reads a database; its URIs are not checked. -/
def read (source : String) : Except Yaml.Fault Database := do
  let d ← Document.ofText source
  match d.root with
  | some root => (ofNode d root).run' 0
  | none => throw .missingField

end Database

end Upkeep
