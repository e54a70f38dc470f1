import DdlCatalog.Analysis.Alter
/-!
`CREATE TABLE`, `ALTER TABLE` and `CREATE INDEX`.

A new table is built detached from its schema while the statement is walked, and attached when
the statement completes; a real definition replaces a stub made for a foreign key target, and
the foreign keys that pointed at the stub are resolved again. `ALTER TABLE` on a known table
applies its items in order; on an unknown one the whole statement waits for the resolution
pass. `CREATE INDEX` always waits for the pass, so it does not matter whether the table is
defined before or after it.
-/

namespace DdlCatalog.Analysis

open DdlCatalog.Syntax
open DdlCatalog.Catalog

namespace Analyze

/-- The foreign keys that point at a replaced stub lose their target and are resolved again. -/
def rebindStub (schemaName : String) (stub : Table) : Analyze Unit := do
  let target := [schemaName, stub.name]
  let c ← catalog
  for s in c.schemas do
    for t in s.tables do
      for fk in t.foreignKeys do
        if fk.referencedTable == some stub.id then
          modifyCatalog (·.modifyTable t.id (·.setForeignKey
            { fk with referencedTable := none, referencedColumns := [] }))
          pushRefs [.target t.id fk.id target]

/-- What the walk of a `CREATE TABLE` statement has gathered. -/
structure CreateTableWalk where
  builder : Option TableBuilder := none
  like : Option ObjectRef := none
deriving Repr, Inhabited

/-- Attaches the finished table, unless its name is taken by a table that is not a stub. -/
def completeCreateTable (stmt : Node) (w : CreateTableWalk) : Analyze Unit := do
  let some b := w.builder | return
  let cs ← caseSensitive
  let some schema ← schemaById b.schema | return
  match schema.findTable cs b.table.name with
  | some existing =>
    if !existing.isStub then
      duplicate .table (schema.name ++ "." ++ b.table.name) stmt.start (stmt.child .ifNotExists).isSome
      releaseTable b.table
      return
    modifyCatalog (·.detachTable schema.id existing.id)
    releaseTable existing
    rebindStub schema.name existing
  | none => pure ()
  modifyCatalog (·.appendTable schema.id b.table)
  let _ ← finish { b with attached := true }
  if let some r := w.like then pushRefs [.object r]
  let columns := (((← catalog).tableById b.table.id).map (·.columns.length)).getD 0
  debug "created table"
    [("table", .text (schema.name ++ "." ++ b.table.name)), ("columns", .count columns)]

/-- One production left during the walk of a `CREATE TABLE` statement. -/
def createTableExit (stmt : Node) (w : CreateTableWalk) (n : Node) : Analyze CreateTableWalk := do
  match n.kind?, w.builder with
  | some .tableName, _ =>
    let (schemaName, name) := splitQualified (identifierParts (some n))
    let schema ← schemaFor schemaName
    let id ← issue .table name
    let t : Table := { id := id, name := name, temporary := hasWord stmt ["TEMPORARY"] }
    pure { w with builder := some { table := t, schema := schema.id, attached := false } }
  | some .columnDefinition, some b => pure { w with builder := some (← insertColumn b n none) }
  | some .tableConstraintDef, some b => pure { w with builder := some (← addConstraint b n) }
  | some .createTableOption, some b => pure { w with builder := some (← option b n) }
  | some .partition, some b =>
    let p ← partitioning n (← qualified b)
    pure { w with builder := some { b with table := { b.table with partitioning := some p } } }
  | some .tableCreationSource, some b =>
    if n.hasKeyword "LIKE" then
      let parts := identifierParts (n.child .tableRef)
      let b := { b with table := { b.table with likeTable := ".".intercalate parts } }
      let r : ObjectRef :=
        { target := .table, name := parts, schema := some b.schema, owner := some b.table.id,
          ownerName := ← qualified b, defines := some b.table.id, binding := .copyDefinition }
      pure { builder := some b, like := some r }
    else pure { w with builder := some { b with table := { b.table with asSelect := exprText n } } }
  | some .createTable, _ =>
    completeCreateTable stmt w
    pure w
  | _, _ => pure w

/-- Applies `CREATE TABLE`. -/
def createTable (stmt : Node) : Analyze Unit := do
  let mut w : CreateTableWalk := {}
  for v in stmt.walk do
    if let .exit n := v then w ← createTableExit stmt w n

/-- A builder for a table in the catalog. -/
def attachedBuilder (t : Table) : Analyze TableBuilder := do
  let schema := (((← catalog).locateTable t.id).map (·.1.id)).getD 0
  pure { table := t, schema := schema, attached := true }

/-- The table a name denotes, without creating anything. -/
def findTable (parts : List String) : Analyze (Option Table) := do
  let (schemaName, name) := splitQualified parts
  match ← lookupSchema schemaName with
  | some s => pure (s.findTable (← caseSensitive) name)
  | none => pure none

/-- Applies the items and partitioning of an `ALTER TABLE` statement to a table. -/
def replayAlter (stmt : Node) (t : Table) : Analyze Unit := do
  let mut b ← attachedBuilder t
  let items := ((stmt.child .alterList).map (·.childrenOf .alterListItem)).getD []
  for item in items do
    b ← alterItem b item
  if let some p := stmt.child .partition then
    let parts ← partitioning p (← qualified b)
    b ← update b fun t => { t with partitioning := some parts }
  let _ ← finish b

/-- Applies `ALTER TABLE`, or defers it when the table is not known yet. -/
def alterTable (stmt : Node) : Analyze Unit := do
  let parts := identifierParts (stmt.child .tableRef)
  let (schemaName, _) := splitQualified parts
  let schema ← lookupSchema schemaName
  let start ← findTable parts
  let mut b? ← match start with
    | some t => pure (some (← attachedBuilder t))
    | none => pure none
  for v in stmt.walk do
    if let .exit n := v then
      if n.isKind .alterListItem then
        if let some b := b? then
          unless b.faulted do b? := some (← alterItem b n)
  match b? with
  | some b =>
    -- a fault abandons the statement before its end, and the statement is reported instead
    if b.faulted then
      report .error .unsupported "" stmt.start
        "statement could not be analysed: runtime error: invalid memory address or nil pointer dereference"
      return
    let mut b := b
    if let some p := stmt.child .partition then
      let parts ← partitioning p (← qualified b)
      b ← update b fun t => { t with partitioning := some parts }
    let _ ← finish b
  | none =>
    debug "deferring alter table" [("table", .text (".".intercalate parts))]
    pushRefs [.object { target := .table, name := parts, schema := schema.map (·.id), owner := none,
                        ownerName := ".".intercalate parts, binding := .replayAlter stmt }]

/-- The index type of `CREATE [UNIQUE | FULLTEXT | SPATIAL] INDEX`. -/
def createIndexType (stmt : Node) : IndexType :=
  if hasWord stmt ["UNIQUE"] then .unique
  else if hasWord stmt ["FULLTEXT"] then .fulltext
  else if hasWord stmt ["SPATIAL"] then .spatial
  else .plain

/-- Records `CREATE INDEX` for the resolution pass. -/
def createIndex (stmt : Node) : Analyze Unit := do
  let target := stmt.child .createIndexTarget
  let parts := identifierParts (target.bind (·.child .tableRef))
  let (schemaName, _) := splitQualified parts
  let name := identifierName (stmt.child .indexName)
  let schema ← lookupSchema schemaName
  pushRefs [.object { target := .table, name := parts, schema := schema.map (·.id), owner := none,
                      ownerName := ".".intercalate parts ++ "." ++ name,
                      binding := .createIndex stmt name (createIndexType stmt) }]

/-- Adds the index of a `CREATE INDEX` statement to a table. -/
def bindIndex (stmt : Node) (name : String) (type : IndexType) (t : Table) : Analyze Unit := do
  let b ← attachedBuilder t
  let id ← issue .index name
  let mut idx ← indexDetails b { id := id, name := name, type := type } stmt
  let target := stmt.child .createIndexTarget
  let cols ← keyParts b (target.bind (·.child .keyList))
  idx := { idx with columns := cols }
  if let some opt := stmt.child .alterAlgorithmOption then
    idx := { idx with onlineAlgorithm := Text.upper opt.value }
  if let some opt := stmt.child .alterLockOption then
    idx := { idx with onlineLock := Text.upper opt.value }
  let (_, b) ← addIndex b idx (some stmt)
  let _ ← finish b

end Analyze

end DdlCatalog.Analysis
