import DdlCatalog.Catalog.DataType
/-!
The objects of a catalog: schemas with their tables, views, routines and events, tables with
their columns, indexes, foreign keys, triggers and partitioning, and the global servers,
tablespaces, logfile groups and user accounts.

Every object carries the handle the catalog issued for it. A link from one object to another
(the column a key part resolved to, the table a foreign key references, the supporting index of
a foreign key, the logfile group of a tablespace) is held as the target's handle, so a link
survives renames and may outlive the target's removal.
-/

namespace DdlCatalog.Catalog

/-- One key part of an index: a column, or an expression for a functional key part. -/
structure IndexColumn where
  name : String := ""
  /-- The column the name resolved to. -/
  column : Option Nat := none
  /-- The prefix length, `0` for none. -/
  length : Nat := 0
  descending : Bool := false
  expression : String := ""
deriving DecidableEq, Repr, Inhabited

/-- The kinds of index. -/
inductive IndexType where
  | primary | unique | plain | fulltext | spatial | foreign
deriving DecidableEq, Repr, Inhabited

/-- The name of an index kind. -/
def IndexType.name : IndexType → String
  | .primary => "PRIMARY"
  | .unique => "UNIQUE"
  | .plain => "INDEX"
  | .fulltext => "FULLTEXT"
  | .spatial => "SPATIAL"
  | .foreign => "FOREIGN"

/-- A table index or key. -/
structure Index where
  id : Nat
  name : String
  type : IndexType
  /-- The index structure (`BTREE`, `HASH`, `RTREE`). -/
  algorithm : String := ""
  columns : List IndexColumn := []
  comment : String := ""
  parser : String := ""
  keyBlockSize : String := ""
  invisible : Bool := false
  /-- Some key part names did not resolve. -/
  incomplete : Bool := false
  /-- The `ALGORITHM=` clause of `CREATE INDEX`. -/
  onlineAlgorithm : String := ""
  /-- The `LOCK=` clause of `CREATE INDEX`. -/
  onlineLock : String := ""
deriving DecidableEq, Repr, Inhabited

/-- The names of the key parts, as written. -/
def Index.columnNames (i : Index) : List String := i.columns.map (·.name)

/-- A foreign key constraint. -/
structure ForeignKey where
  id : Nat
  name : String
  columnNames : List String := []
  /-- The local columns the names resolved to, one entry per name once resolved. -/
  columns : List (Option Nat) := []
  /-- The target as written, possibly schema qualified. -/
  referencedTableName : String := ""
  referencedTable : Option Nat := none
  /-- The referenced column names; empty when the clause names none and the target has no
  primary key to take them from. -/
  referencedColumnNames : List String := []
  referencedColumns : List (Option Nat) := []
  onDelete : String := ""
  onUpdate : String := ""
  matchType : String := ""
  /-- The supporting index. -/
  index : Option Nat := none
  incomplete : Bool := false
deriving DecidableEq, Repr, Inhabited

/-- A table column. -/
structure Column where
  id : Nat
  name : String
  dataType : DataType := {}
  notNull : Bool := false
  autoIncrement : Bool := false
  invisible : Bool := false
  /-- The default value as written; `hasDefault` separates `DEFAULT ''` from no default. -/
  default : String := ""
  hasDefault : Bool := false
  onUpdate : String := ""
  comment : String := ""
  generated : Bool := false
  generationExpression : String := ""
  /-- `VIRTUAL` or `STORED`. -/
  generatedStorage : String := ""
  columnFormat : String := ""
  storage : String := ""
  srid : String := ""
deriving DecidableEq, Repr, Inhabited

/-- One `PARTITION` or `SUBPARTITION` clause. -/
structure PartitionSpec where
  name : String
  /-- The bound as written: `LESS THAN (10)`, `LESS THAN MAXVALUE`, `IN (1,2)`. -/
  values : String := ""
  engine : String := ""
  comment : String := ""
  dataDirectory : String := ""
  indexDirectory : String := ""
  maxRows : String := ""
  minRows : String := ""
  tablespace : String := ""
  nodeGroup : String := ""
deriving DecidableEq, Repr, Inhabited

/-- A partition with its subpartitions. -/
structure PartitionDefinition where
  spec : PartitionSpec
  subpartitions : List PartitionSpec := []
deriving DecidableEq, Repr, Inhabited

/-- A `PARTITION BY` clause. -/
structure Partitioning where
  /-- `HASH`, `KEY`, `RANGE` or `LIST`. -/
  type : String := ""
  linear : Bool := false
  /-- `RANGE COLUMNS` or `LIST COLUMNS`. -/
  columns : Bool := false
  expression : String := ""
  columnNames : List String := []
  keyAlgorithm : Nat := 0
  count : Option Nat := none
  subType : String := ""
  subLinear : Bool := false
  subExpression : String := ""
  subColumnNames : List String := []
  subCount : Option Nat := none
  definitions : List PartitionDefinition := []
deriving DecidableEq, Repr, Inhabited

/-- A table trigger. -/
structure Trigger where
  id : Nat
  name : String
  definer : String := ""
  /-- `BEFORE` or `AFTER`. -/
  timing : String := ""
  /-- `INSERT`, `UPDATE` or `DELETE`. -/
  event : String := ""
  /-- `FOLLOWS` or `PRECEDES`; `otherTrigger` names the trigger it refers to. -/
  orderType : String := ""
  otherTrigger : String := ""
  body : String := ""
  /-- The table as written. -/
  tableName : String := ""
deriving DecidableEq, Repr, Inhabited

/-- The timing and event, e.g. `BEFORE INSERT`. -/
def Trigger.describe (t : Trigger) : String := Text.trimBlank (t.timing ++ " " ++ t.event)

/-- The `CREATE TABLE` options. Values are kept as written, except the charset and collation,
which are lower case. -/
structure TableOptions where
  engine : String := ""
  rowFormat : String := ""
  charset : String := ""
  collation : String := ""
  comment : String := ""
  autoIncrement : String := ""
  avgRowLength : String := ""
  minRows : String := ""
  maxRows : String := ""
  keyBlockSize : String := ""
  packKeys : String := ""
  checksum : Bool := false
  delayKeyWrite : Bool := false
  statsAutoRecalc : String := ""
  statsPersistent : String := ""
  statsSamplePages : String := ""
  connection : String := ""
  password : String := ""
  compression : String := ""
  encryption : String := ""
  mergeUnion : List String := []
  insertMethod : String := ""
  dataDirectory : String := ""
  indexDirectory : String := ""
  tablespace : String := ""
  storage : String := ""
  /-- Options without a field of their own, by upper-case name; one entry per name. -/
  other : List (String × String) := []
deriving DecidableEq, Repr, Inhabited

/-- Sets an option without a field of its own, replacing an earlier value. -/
def TableOptions.setOther (o : TableOptions) (key value : String) : TableOptions :=
  if o.other.any (·.1 == key) then
    { o with other := o.other.map fun (k, v) => if k == key then (k, value) else (k, v) }
  else { o with other := o.other ++ [(key, value)] }

/-- A base table. -/
structure Table where
  id : Nat
  name : String
  temporary : Bool := false
  /-- A placeholder created for a foreign key target that does not exist. -/
  isStub : Bool := false
  columns : List Column := []
  indexes : List Index := []
  foreignKeys : List ForeignKey := []
  triggers : List Trigger := []
  /-- The primary key, one of `indexes`. -/
  primaryKey : Option Nat := none
  partitioning : Option Partitioning := none
  options : TableOptions := {}
  checks : List String := []
  /-- The source of `CREATE TABLE ... LIKE`, as written. -/
  likeTable : String := ""
  /-- The query of `CREATE TABLE ... AS SELECT`. -/
  asSelect : String := ""
deriving DecidableEq, Repr, Inhabited

/-- A stored query. -/
structure View where
  id : Nat
  name : String
  definer : String := ""
  algorithm : String := ""
  security : String := ""
  columns : List String := []
  query : String := ""
  /-- `CASCADED`, `LOCAL` or empty. -/
  checkOption : String := ""
  withCheck : Bool := false
deriving DecidableEq, Repr, Inhabited

/-- Stored procedures, stored functions and loadable functions. -/
inductive RoutineType where
  | procedure | function | loadable
deriving DecidableEq, Repr, Inhabited

/-- The name of a routine kind. -/
def RoutineType.name : RoutineType → String
  | .procedure => "PROCEDURE"
  | .function => "FUNCTION"
  | .loadable => "UDF"

/-- Procedures have a namespace of their own; stored and loadable functions share one. -/
def RoutineType.sameNamespace (a b : RoutineType) : Bool :=
  (a == .procedure) == (b == .procedure)

/-- A routine parameter. -/
structure RoutineParam where
  name : String
  /-- `IN`, `OUT` or `INOUT`; empty for functions. -/
  mode : String := ""
  dataType : DataType := {}
deriving DecidableEq, Repr, Inhabited

/-- A stored procedure, stored function or loadable function. -/
structure Routine where
  id : Nat
  name : String
  type : RoutineType
  definer : String := ""
  params : List RoutineParam := []
  /-- The result type of a stored function. -/
  returnType : Option DataType := none
  /-- The result kind of a loadable function (`STRING`, `INTEGER`, `REAL`, `DECIMAL`). -/
  udfReturn : String := ""
  soname : String := ""
  aggregate : Bool := false
  comment : String := ""
  language : String := ""
  deterministic : Bool := false
  dataAccess : String := ""
  security : String := ""
  body : String := ""
deriving DecidableEq, Repr, Inhabited

/-- A scheduled event. -/
structure Event where
  id : Nat
  name : String
  definer : String := ""
  /-- The time of a one-time event, as written. -/
  executeAt : String := ""
  /-- The interval of a recurring event, as written. -/
  every : String := ""
  intervalUnit : String := ""
  starts : String := ""
  ends : String := ""
  preserve : Bool := false
  enabled : Bool := true
  /-- `DISABLE ON SLAVE`. -/
  slaveSide : Bool := false
  comment : String := ""
  body : String := ""
deriving DecidableEq, Repr, Inhabited

/-- A database. -/
structure Schema where
  id : Nat
  name : String
  charset : String := ""
  collation : String := ""
  comment : String := ""
  /-- The `DEFAULT ENCRYPTION` option (`Y` or `N`). -/
  encryption : String := ""
  readOnly : Bool := false
  /-- Created because something referred to it before or without `CREATE DATABASE`. -/
  implicit : Bool := false
  /-- `IF NOT EXISTS` on the `CREATE DATABASE` statement. -/
  ignoreIfExists : Bool := false
  tables : List Table := []
  views : List View := []
  routines : List Routine := []
  events : List Event := []
deriving DecidableEq, Repr, Inhabited

/-- A `FEDERATED` server definition. -/
structure Server where
  id : Nat
  name : String
  wrapper : String := ""
  host : String := ""
  database : String := ""
  user : String := ""
  password : String := ""
  socket : String := ""
  ownerUser : String := ""
  port : Nat := 0
deriving DecidableEq, Repr, Inhabited

/-- A general or undo tablespace. -/
structure Tablespace where
  id : Nat
  name : String
  dataFile : String := ""
  /-- The logfile group `logfileGroupName` resolved to. -/
  logfileGroup : Option Nat := none
  logfileGroupName : String := ""
  initialSize : Nat := 0
  autoextendSize : Nat := 0
  maxSize : Nat := 0
  extentSize : Nat := 0
  fileBlockSize : Nat := 0
  nodeGroup : Option Nat := none
  wait : Bool := false
  comment : String := ""
  engine : String := ""
  encryption : String := ""
  undo : Bool := false
deriving DecidableEq, Repr, Inhabited

/-- An NDB logfile group. -/
structure LogfileGroup where
  id : Nat
  name : String
  undoFile : String := ""
  initialSize : Nat := 0
  undoBufferSize : Nat := 0
  redoBufferSize : Nat := 0
  nodeGroup : Option Nat := none
  wait : Bool := false
  comment : String := ""
  engine : String := ""
deriving DecidableEq, Repr, Inhabited

/-- An account named in a `DEFINER` clause. -/
structure User where
  id : Nat
  name : String
  host : String := ""
deriving DecidableEq, Repr, Inhabited

/-- The account as `name@host`, or the name alone without a host. -/
def User.account (u : User) : String := if u.host.isEmpty then u.name else u.name ++ "@" ++ u.host

end DdlCatalog.Catalog
