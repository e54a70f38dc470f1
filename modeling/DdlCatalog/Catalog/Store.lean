import DdlCatalog.Catalog.Kind
import DdlCatalog.Catalog.Names
import DdlCatalog.Catalog.Objects
/-!
The catalog: the tree of schemas and global objects, and the register of handles.

Handles are issued in increasing order from 1 and never reused. The register remembers the
kind and current name of every object a handle was issued for, and whether the handle is still
live: an object that was discarded or replaced has its handle released, while links held by
other objects may still name it. Objects are found in the tree by name under the catalog's case
policy, or by handle.
-/

namespace DdlCatalog.Catalog

/-- The register entry of one handle. -/
structure Handle where
  kind : ObjectKind
  name : String
  live : Bool := true
deriving DecidableEq, Repr, Inhabited

/-- The first item whose name matches `key` under the case policy. -/
def findNamed {α : Type} (nameOf : α → String) (caseSensitive : Bool) (key : String) :
    List α → Option α
  | [] => none
  | x :: xs => if nameEqual caseSensitive (nameOf x) key then some x
    else findNamed nameOf caseSensitive key xs

namespace Table

/-- The column with the given name. -/
def findColumn (t : Table) (cs : Bool) (name : String) : Option Column :=
  findNamed (·.name) cs name t.columns

/-- The index with the given name. -/
def findIndex (t : Table) (cs : Bool) (name : String) : Option Index :=
  findNamed (·.name) cs name t.indexes

/-- The foreign key with the given name. -/
def findForeignKey (t : Table) (cs : Bool) (name : String) : Option ForeignKey :=
  findNamed (·.name) cs name t.foreignKeys

/-- The primary key index. -/
def primaryIndex (t : Table) : Option Index :=
  t.primaryKey.bind fun pk => t.indexes.find? (·.id == pk)

/-- Replaces the index with the same handle. -/
def setIndex (t : Table) (i : Index) : Table :=
  { t with indexes := t.indexes.map fun j => if j.id == i.id then i else j }

/-- Replaces the foreign key with the same handle. -/
def setForeignKey (t : Table) (fk : ForeignKey) : Table :=
  { t with foreignKeys := t.foreignKeys.map fun g => if g.id == fk.id then fk else g }

end Table

namespace Schema

/-- The table with the given name. -/
def findTable (s : Schema) (cs : Bool) (name : String) : Option Table :=
  findNamed (·.name) cs name s.tables

/-- The view with the given name. -/
def findView (s : Schema) (cs : Bool) (name : String) : Option View :=
  findNamed (·.name) cs name s.views

/-- The routine with the given name in the namespace of `type`. -/
def findRoutine (s : Schema) (cs : Bool) (name : String) (type : RoutineType) : Option Routine :=
  s.routines.find? fun r => r.type.sameNamespace type && nameEqual cs r.name name

/-- The event with the given name. -/
def findEvent (s : Schema) (cs : Bool) (name : String) : Option Event :=
  findNamed (·.name) cs name s.events

/-- The trigger with the given name on any table of the schema; trigger names are unique
per schema. -/
def findTrigger (s : Schema) (cs : Bool) (name : String) : Option Trigger :=
  s.tables.findSome? fun t => findNamed (·.name) cs name t.triggers

end Schema

/-- The root of the object model. -/
structure Catalog where
  defaultCharset : String := "utf8mb4"
  defaultCollation : String := "utf8mb4_0900_ai_ci"
  version : Version := {}
  schemas : List Schema := []
  servers : List Server := []
  tablespaces : List Tablespace := []
  logfileGroups : List LogfileGroup := []
  users : List User := []
  /-- The register: the entry of handle `h` is at position `h - 1`. -/
  handles : Array Handle := #[]
deriving Repr, Inhabited

namespace Catalog

/-- An empty catalog for a server version. -/
def new (version : Version) : Catalog := { version := version }

/-- Issues the next handle for a new object. -/
def issue (c : Catalog) (kind : ObjectKind) (name : String) : Nat × Catalog :=
  (c.handles.size + 1, { c with handles := c.handles.push { kind := kind, name := name } })

/-- Forgets a handle: the object was discarded or replaced. -/
def release (c : Catalog) (id : Nat) : Catalog :=
  if id == 0 then c else { c with handles := c.handles.modify (id - 1) ({ · with live := false }) }

/-- Records the new name of an object. -/
def rename (c : Catalog) (id : Nat) (name : String) : Catalog :=
  if id == 0 then c else { c with handles := c.handles.modify (id - 1) ({ · with name := name }) }

/-- The name last recorded for a handle. -/
def handleName (c : Catalog) (id : Nat) : String :=
  ((c.handles[id - 1]?).map (·.name)).getD ""

/-- The live handles in increasing order, with kind and name. -/
def liveObjects (c : Catalog) : List (Nat × ObjectKind × String) :=
  (c.handles.toList.zipIdx 1).filterMap fun (h, id) =>
    if h.live then some (id, h.kind, h.name) else none

/-- The number of live handles. -/
def objectCount (c : Catalog) : Nat := (c.handles.toList.filter (·.live)).length

/-- The schema with the given name. -/
def findSchema (c : Catalog) (cs : Bool) (name : String) : Option Schema :=
  findNamed (·.name) cs name c.schemas

/-- The schema with the given handle. -/
def schemaById (c : Catalog) (id : Nat) : Option Schema := c.schemas.find? (·.id == id)

/-- Changes the schema with the given handle. -/
def modifySchema (c : Catalog) (id : Nat) (f : Schema → Schema) : Catalog :=
  { c with schemas := c.schemas.map fun s => if s.id == id then f s else s }

/-- The table with the given handle, with the schema holding it. -/
def locateTable (c : Catalog) (id : Nat) : Option (Schema × Table) :=
  c.schemas.findSome? fun s => (s.tables.find? (·.id == id)).map (s, ·)

/-- The table with the given handle. -/
def tableById (c : Catalog) (id : Nat) : Option Table := (c.locateTable id).map (·.2)

/-- Whether a table with the given handle is in the catalog. -/
def hasTable (c : Catalog) (id : Nat) : Bool := (c.locateTable id).isSome

/-- Replaces the table with the same handle, wherever it is. -/
def putTable (c : Catalog) (t : Table) : Catalog :=
  { c with schemas := c.schemas.map fun s =>
      { s with tables := s.tables.map fun u => if u.id == t.id then t else u } }

/-- Changes the table with the given handle. -/
def modifyTable (c : Catalog) (id : Nat) (f : Table → Table) : Catalog :=
  { c with schemas := c.schemas.map fun s =>
      { s with tables := s.tables.map fun u => if u.id == id then f u else u } }

/-- Appends a table to a schema. -/
def appendTable (c : Catalog) (schema : Nat) (t : Table) : Catalog :=
  c.modifySchema schema fun s => { s with tables := s.tables ++ [t] }

/-- Detaches the table with the given handle from a schema. -/
def detachTable (c : Catalog) (schema id : Nat) : Catalog :=
  c.modifySchema schema fun s => { s with tables := s.tables.filter (·.id != id) }

/-- `schema.table` for the table with the given handle, if it is in the catalog. -/
def qualifiedTable (c : Catalog) (id : Nat) : Option String :=
  (c.locateTable id).map fun (s, t) => s.name ++ "." ++ t.name

/-- The server with the given name. -/
def findServer (c : Catalog) (cs : Bool) (name : String) : Option Server :=
  findNamed (·.name) cs name c.servers

/-- The tablespace with the given name. -/
def findTablespace (c : Catalog) (cs : Bool) (name : String) : Option Tablespace :=
  findNamed (·.name) cs name c.tablespaces

/-- The logfile group with the given name. -/
def findLogfileGroup (c : Catalog) (cs : Bool) (name : String) : Option LogfileGroup :=
  findNamed (·.name) cs name c.logfileGroups

/-- The account `name@host`, created when missing. Accounts compare case-sensitively. -/
def ensureUser (c : Catalog) (name host : String) : User × Catalog :=
  match c.users.find? fun u => u.name == name && u.host == host with
  | some u => (u, c)
  | none =>
    let (id, c) := c.issue .user name
    let u : User := { id := id, name := name, host := host }
    (u, { c with users := c.users ++ [u] })

end Catalog

end DdlCatalog.Catalog
