/-!
The kinds of catalog objects. Every object the catalog issues a handle for has one kind, and
the kind's name is how messages and listings refer to it.
-/

namespace DdlCatalog.Catalog

/-- The kind of a catalog object. -/
inductive ObjectKind where
  | schema | table | column | index | foreignKey | trigger | view | routine | event | server
  | tablespace | logfileGroup | user
deriving DecidableEq, Repr, Inhabited

/-- The name of a kind, as messages write it. -/
def ObjectKind.name : ObjectKind → String
  | .schema => "schema"
  | .table => "table"
  | .column => "column"
  | .index => "index"
  | .foreignKey => "foreign key"
  | .trigger => "trigger"
  | .view => "view"
  | .routine => "routine"
  | .event => "event"
  | .server => "server"
  | .tablespace => "tablespace"
  | .logfileGroup => "logfile group"
  | .user => "user"

end DdlCatalog.Catalog
