import DdlCatalog.Sql.Token
import DdlCatalog.Catalog.Kind
/-!
What the analysis reports. A diagnostic is an anomaly found while applying a statement: a
duplicate, an unknown object, a value out of range, something the analysis does not support.
Diagnostics never stop the analysis. A resolution error is a deferred reference that did not
resolve at the end of a unit.
-/

namespace DdlCatalog.Analysis

open DdlCatalog.Sql
open DdlCatalog.Catalog

/-- How serious a diagnostic is. -/
inductive Severity where
  | info | warning | error
deriving DecidableEq, Repr, Inhabited

/-- The name of a severity. -/
def Severity.name : Severity → String
  | .info => "info"
  | .warning => "warning"
  | .error => "error"

/-- What a diagnostic is about. -/
inductive Code where
  | valueOutOfRange | duplicate | unknownObject | unsupported | circularLike
deriving DecidableEq, Repr, Inhabited

/-- The name of a code. -/
def Code.name : Code → String
  | .valueOutOfRange => "ValueOutOfRange"
  | .duplicate => "Duplicate"
  | .unknownObject => "UnknownObject"
  | .unsupported => "Unsupported"
  | .circularLike => "CircularLike"

/-- The class of error a code belongs to. -/
def Code.sentinel : Code → String
  | .valueOutOfRange => "value out of range"
  | .duplicate => "duplicate definition"
  | .unknownObject => "unresolved reference"
  | .unsupported => "unsupported"
  | .circularLike => "circular definition"

/-- An anomaly found while applying a statement. -/
structure Diagnostic where
  severity : Severity
  code : Code
  /-- The qualified name of the most specific object involved. -/
  object : String
  message : String
  /-- Where the construct starts; line 0 when there is no position. -/
  pos : Position
deriving DecidableEq, Repr, Inhabited

/-- The diagnostic as one line: the position when known, the object when named, the
message. -/
def Diagnostic.text (d : Diagnostic) : String :=
  let place := if 0 < d.pos.line then s!"line {d.pos.line}, column {d.pos.column}: " else ""
  let obj := if d.object.isEmpty then "" else d.object ++ ": "
  place ++ obj ++ d.message

/-- The kinds of deferred reference. -/
inductive RefKind where
  /-- Key part names of an index, matched against its table. -/
  | index
  /-- Local column names of a foreign key, matched against its table. -/
  | referencing
  /-- The target table and columns of a foreign key. -/
  | referenced
  /-- A name of a table or other object that a statement waits for. -/
  | object
deriving DecidableEq, Repr, Inhabited

/-- The name of a reference kind. -/
def RefKind.name : RefKind → String
  | .index => "Index"
  | .referencing => "Referencing"
  | .referenced => "Referenced"
  | .object => "TableRef"

/-- A deferred reference that did not resolve. -/
structure ResolutionError where
  kind : RefKind
  /-- The handle of the object holding the reference, `0` when there is none. -/
  ownerId : Nat
  owner : String
  /-- The index or foreign key carrying the reference, if any. -/
  object : String
  /-- The kind of object that was looked up. -/
  target : ObjectKind
  /-- The names that did not resolve. -/
  names : List String
deriving DecidableEq, Repr, Inhabited

/-- The error as one line. -/
def ResolutionError.text (e : ResolutionError) : String :=
  let owner := if e.object.isEmpty then e.owner else e.owner ++ " (" ++ e.object ++ ")"
  s!"{e.kind.name} reference from {owner}: unresolved {e.target.name} " ++ ", ".intercalate e.names

end DdlCatalog.Analysis
