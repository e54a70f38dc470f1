import DdlCatalog.Syntax.Node
import DdlCatalog.Catalog.Objects
import DdlCatalog.Analysis.Diagnostic
/-!
Deferred references: name links recorded while statements are applied that can only be checked
once the whole unit is known. Column references match names against the columns of a table.
Object references look a name up and then carry out the part of a statement that waited for it:
a `CREATE INDEX` or `ALTER TABLE` on a table defined further down, the definition copy of
`CREATE TABLE ... LIKE`, a trigger on a table not defined yet, the logfile group of a
tablespace.
-/

namespace DdlCatalog.Analysis

open DdlCatalog.Syntax
open DdlCatalog.Catalog

/-- What an object reference does with the object it finds. -/
inductive Binding where
  /-- Copies the found table's definition into the table the reference defines. -/
  | copyDefinition
  /-- Applies the items of an `ALTER TABLE` statement to the found table. -/
  | replayAlter (stmt : Node)
  /-- Adds the index of a `CREATE INDEX` statement to the found table. -/
  | createIndex (stmt : Node) (name : String) (type : IndexType)
  /-- Attaches a trigger to the found table; `object` names it in diagnostics. -/
  | attachTrigger (trigger : Trigger) (object : String) (stmt : Node)
  /-- Links a tablespace to the found logfile group. -/
  | linkLogfileGroup (tablespace : Nat)
deriving Repr, Inhabited

/-- A name to look up, and what to do with the object found. -/
structure ObjectRef where
  target : ObjectKind
  name : List String
  /-- Where an unqualified table name binds, fixed when the reference is recorded. -/
  schema : Option Nat
  /-- The handle of the object holding the reference, for error reports. -/
  owner : Option Nat
  ownerName : String
  /-- The table whose definition the binding fills in, for `LIKE`. -/
  defines : Option Nat := none
  binding : Binding
deriving Repr, Inhabited

/-- A deferred reference. -/
inductive Reference where
  /-- The key part names of an index, against the columns of its table. -/
  | indexColumns (table index : Nat)
  /-- The local column names of a foreign key, against the columns of its table. -/
  | localColumns (table foreignKey : Nat)
  /-- The target of a foreign key; an unqualified target binds to the schema of the owning
  table. -/
  | target (table foreignKey : Nat) (name : List String)
  /-- A name of an object that part of a statement waits for. -/
  | object (r : ObjectRef)
deriving Repr, Inhabited

/-- The kind of a reference. -/
def Reference.kind : Reference → RefKind
  | .indexColumns _ _ => .index
  | .localColumns _ _ => .referencing
  | .target _ _ _ => .referenced
  | .object _ => .object

end DdlCatalog.Analysis
