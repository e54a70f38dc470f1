import DdlCatalog.Analysis.DataTypes
import DdlCatalog.Analysis.Partitioning
/-!
Building one table: columns, indexes, foreign keys, options. A builder works on a copy of the
table. When the table is in the catalog (an `ALTER TABLE`, or a statement replayed by the
resolution pass) every change is written back at once; a table still being created is only
attached when its statement completes, so a rejected duplicate leaves the catalog untouched.

The references the changes need are buffered in the builder and handed to the unit by
`finish`, which also adds the supporting indexes of new foreign keys, marks primary key columns
`NOT NULL` and gives character columns the table's charset.
-/

namespace DdlCatalog.Analysis

open DdlCatalog.Sql
open DdlCatalog.Syntax
open DdlCatalog.Catalog

/-- A table under construction or change. -/
structure TableBuilder where
  table : Table
  /-- The schema the table belongs to. -/
  schema : Nat
  /-- Whether the table is in the catalog, so that changes are written back. -/
  attached : Bool
  /-- References recorded since the last `finish`. -/
  refs : List Reference := []
  /-- Foreign keys still waiting for a supporting index, with the index name given after
  `FOREIGN KEY`. -/
  pending : List (Nat × String) := []
  /-- Applying an item faulted; the rest of the statement is abandoned. -/
  faulted : Bool := false
deriving Repr, Inhabited

/-- The leading keyword of a table constraint: `PRIMARY`, `UNIQUE`, `FOREIGN`, `CHECK`, `KEY`,
`INDEX`, `FULLTEXT` or `SPATIAL`. -/
def constraintKind (defn : Node) : String := ((defn.words.find? (· != "CONSTRAINT"))).getD ""

/-- The index type a constraint keyword introduces. -/
def indexTypeOf : String → Option IndexType
  | "PRIMARY" => some .primary
  | "UNIQUE" => some .unique
  | "KEY" | "INDEX" => some .plain
  | "FULLTEXT" => some .fulltext
  | "SPATIAL" => some .spatial
  | _ => none

/-- The name an unnamed index takes from its first key part. -/
def firstKeyName (idx : Index) : String :=
  match idx.columns.head? with
  | some ic => if ic.name.isEmpty then "functional_index" else ic.name
  | none => "functional_index"

/-- Places a column right after the column named `after`, at the front for `first`, or at the
end when `after` names no column. -/
def insertColumnAt (cs : Bool) (cols : List Column) (col : Column) (first : Bool)
    (after : String) : List Column :=
  let pos :=
    if first then 0
    else if after.isEmpty then cols.length
    else match cols.findIdx? (fun c => nameEqual cs c.name after) with
      | some i => i + 1
      | none => cols.length
  cols.take pos ++ [col] ++ cols.drop pos

/-- The first free name among `base`, `base_2`, `base_3`, ... -/
def freeIndexName (cs : Bool) (t : Table) (base : String) : String :=
  let taken (n : String) : Bool := (t.findIndex cs n).isSome
  let rec go : Nat → Nat → String
    | 0, _ => base
    | fuel + 1, i => if taken (base ++ "_" ++ toString i) then go fuel (i + 1) else base ++ "_" ++ toString i
  if taken base then go (t.indexes.length + 1) 2 else base

/-- Whether the leading key parts of `idx` are exactly `names`, without prefix lengths. -/
def coversColumns (cs : Bool) (idx : Index) (names : List String) : Bool :=
  idx.type != .fulltext && idx.type != .spatial && names.length ≤ idx.columns.length &&
    (names.zip idx.columns).all (fun (n, ic) => ic.length == 0 && nameEqual cs ic.name n) &&
    !names.isEmpty

namespace Analyze

/-- Writes a changed table into the builder, and into the catalog when it is attached. -/
def update (b : TableBuilder) (f : Table → Table) : Analyze TableBuilder := do
  let b := { b with table := f b.table }
  if b.attached then modifyCatalog (·.putTable b.table)
  pure b

/-- `schema.table` for the builder's table. -/
def qualified (b : TableBuilder) : Analyze String := do
  let s ← schemaById b.schema
  pure (((s.map (·.name ++ ".")).getD "") ++ b.table.name)

/-- A member of the table as diagnostics name it. -/
def memberName (b : TableBuilder) (name : String) : Analyze String :=
  return (← qualified b) ++ "." ++ name

/-- Whether a foreign key name is taken in the table's schema; foreign key names are unique
per schema. -/
def foreignKeyNameTaken (b : TableBuilder) (name : String) : Analyze Bool := do
  let cs ← caseSensitive
  if (b.table.findForeignKey cs name).isSome then return true
  let others := ((← schemaById b.schema).map (·.tables)).getD []
  return others.any fun t => t.id != b.table.id && (t.findForeignKey cs name).isSome

/-- `fk_<table>_<target>`, or with `1`, `2`, ... appended when taken. -/
def foreignKeyName (b : TableBuilder) (target : String) : Analyze String := do
  let base := "fk_" ++ b.table.name ++ "_" ++ target
  if !(← foreignKeyNameTaken b base) then return base
  let bound := ((← catalog).schemas.map fun s =>
    (s.tables.map (·.foreignKeys.length)).foldr (· + ·) 0).foldr (· + ·) 0
  let mut i := 1
  for _ in List.range (bound + b.table.foreignKeys.length + 1) do
    if !(← foreignKeyNameTaken b (base ++ toString i)) then return base ++ toString i
    i := i + 1
  return base ++ toString i

/-- Reads one column attribute. -/
def columnAttribute (col : Column) (attr : Node) : Column :=
  match attr.firstKeyword with
  | "NOT" => if attr.hasKeyword "NULL" then { col with notNull := true } else col
  | "NULL" => { col with notNull := false }
  | "AUTO_INCREMENT" => { col with autoIncrement := true }
  | "VISIBLE" => { col with invisible := false }
  | "INVISIBLE" => { col with invisible := true }
  | "DEFAULT" => { col with default := exprText attr, hasDefault := true }
  | "ON" => { col with onUpdate := exprText attr }
  | "SERIAL" => { col with notNull := true, autoIncrement := true }
  | "COMMENT" => { col with comment := textValue (attr.child .textLiteral) }
  | "COLLATE" => { col with dataType := { col.dataType with collation := nameValue (attr.child .collationName) } }
  | "COLUMN_FORMAT" => { col with columnFormat := wordAfter attr "COLUMN_FORMAT" }
  | "STORAGE" => { col with storage := wordAfter attr "STORAGE" }
  | "SRID" => match numberOf attr with
    | some t => { col with srid := t.text }
    | none => col
  | _ => col

/-- Whether a column definition's type is written `SERIAL`. -/
def isSerialType (defn : Node) : Bool :=
  ((defn.child .dataType).map (·.words)).getD [] == ["SERIAL"]

/-- A column from its definition, not attached; inline constraints come later. -/
def newColumn (defn : Node) : Analyze Column := do
  let name := identifierName (defn.child .identifier)
  let id ← issue .column name
  let dt ← match defn.child .dataType with
    | some n => extractDataType n name ""
    | none => pure {}
  let mut col : Column := { id := id, name := name, dataType := dt }
  if isSerialType defn then col := { col with notNull := true, autoIncrement := true }
  for c in defn.children do
    match c.kind? with
    | some .columnAttribute => col := columnAttribute col c
    | some .generatedClause =>
      col := { col with generated := true,
                        generationExpression := ((c.child .expr).map Node.text).getD col.generationExpression,
                        generatedStorage := if c.hasKeyword "STORED" then "STORED" else "VIRTUAL" }
    | _ => pure ()
  pure col

/-- Attaches an index unless its name is taken or it is a second primary key; reports whether
it was kept. -/
def addIndex (b : TableBuilder) (idx : Index) (site? : Option Node) : Analyze (Bool × TableBuilder) := do
  let cs ← caseSensitive
  if idx.type == .primary && b.table.primaryKey.isSome then
    report .error .duplicate (← memberName b "PRIMARY") (nodePos site?) "multiple primary keys defined"
    release idx.id
    return (false, b)
  if (b.table.findIndex cs idx.name).isSome then
    duplicate .index (← memberName b idx.name) (nodePos site?) false
    release idx.id
    return (false, b)
  let b ← update b fun t =>
    { t with indexes := t.indexes ++ [idx],
             primaryKey := if idx.type == .primary then some idx.id else t.primaryKey }
  pure (true, { b with refs := b.refs ++ [.indexColumns b.table.id idx.id] })

/-- Reads the key parts of a key list. -/
def keyParts (b : TableBuilder) (list : Option Node) : Analyze (List IndexColumn) := do
  let parts := (list.map (·.childrenOf .keyPart)).getD []
  let mut out := []
  for kp in parts do
    let mut ic : IndexColumn := { descending := kp.hasKeyword "DESC" }
    match kp.child .expr with
    | some e => ic := { ic with expression := e.text }
    | none =>
      ic := { ic with name := identifierName (kp.child .identifier) }
      if let some n ← intValue kp (← memberName b ic.name) then ic := { ic with length := n }
    out := out ++ [ic]
  pure out

/-- Reads one index option. -/
def indexOption (idx : Index) (opt : Node) : Index :=
  match opt.firstKeyword with
  | "KEY_BLOCK_SIZE" => match numberOf opt with
    | some t => { idx with keyBlockSize := t.text }
    | none => idx
  | "COMMENT" => { idx with comment := textValue (opt.child .textLiteral) }
  | "WITH" => { idx with parser := identifierName (opt.child .identifier) }
  | "VISIBLE" => { idx with invisible := false }
  | "INVISIBLE" => { idx with invisible := true }
  | _ => idx

/-- Reads the index type, key parts and options among the direct children of `n`. -/
def indexDetails (b : TableBuilder) (idx : Index) (n : Node) : Analyze Index := do
  let mut idx := idx
  for c in n.children do
    match c.kind? with
    | some .indexType => idx := { idx with algorithm := Text.upper c.value }
    | some .indexOption => idx := indexOption idx c
    | some .keyList =>
      let cols ← keyParts b (some c)
      idx := { idx with columns := cols }
    | _ => pure ()
  pure idx

/-- Creates a foreign key from a `REFERENCES` clause. `symbol` is the constraint name and
`indexName` the name given after `FOREIGN KEY`. -/
def addForeignKey (b : TableBuilder) (symbol indexName : String) (columns : List String)
    (refs? : Option Node) (site? : Option Node) : Analyze TableBuilder := do
  let some refs := refs? | return b
  let target := identifierParts (refs.child .tableRef)
  let (_, targetName) := splitQualified target
  let opts ← options
  let name ← if symbol.isEmpty && opts.autoForeignKeyNames then foreignKeyName b targetName
    else pure symbol
  if !name.isEmpty && (← foreignKeyNameTaken b name) then
    duplicate .foreignKey (← memberName b name) (nodePos site?) false
    return b
  let id ← issue .foreignKey name
  let mut fk : ForeignKey :=
    { id := id, name := name, columnNames := columns,
      referencedTableName := ".".intercalate target,
      referencedColumnNames := columnListNames (refs.child .columnList),
      matchType := wordAfter refs "MATCH" }
  for opt in refs.childrenOf .referenceOption do
    let words := opt.words
    if 3 ≤ words.length then
      let action := " ".intercalate (words.drop 2)
      match words[1]? with
      | some "DELETE" => fk := { fk with onDelete := action }
      | some "UPDATE" => fk := { fk with onUpdate := action }
      | _ => pure ()
  let b ← update b fun t => { t with foreignKeys := t.foreignKeys ++ [fk] }
  pure { b with refs := b.refs ++ [.localColumns b.table.id id, .target b.table.id id target],
                pending := b.pending ++ [(id, indexName)] }

/-- Applies the column-level keys, references and checks of an attached column. -/
def inlineConstraints (b : TableBuilder) (col : Column) (defn : Node) : Analyze TableBuilder := do
  let mut b := b
  let mut unique := isSerialType defn
  for c in defn.children do
    match c.kind? with
    | some .columnAttribute =>
      match c.firstKeyword with
      | "PRIMARY" | "KEY" =>
        let id ← issue .index "PRIMARY"
        let idx : Index := { id := id, name := "PRIMARY", type := .primary, columns := [{ name := col.name }] }
        b := (← addIndex b idx (some c)).2
      | "UNIQUE" | "SERIAL" => unique := true
      | "CONSTRAINT" | "CHECK" =>
        if let some e := c.child .expr then
          b ← update b fun t => { t with checks := t.checks ++ [e.text] }
      | _ => pure ()
    | some .references => b ← addForeignKey b "" "" [col.name] (some c) (some c)
    | _ => pure ()
  if unique then
    let name := freeIndexName (← caseSensitive) b.table col.name
    let id ← issue .index name
    let idx : Index := { id := id, name := name, type := .unique, columns := [{ name := col.name }] }
    b := (← addIndex b idx (some defn)).2
  pure b

/-- Reads a placement (`FIRST`, `AFTER col`): whether first, and the column to follow; `none`
when `AFTER` names a column that does not exist. -/
def placement (b : TableBuilder) (place? : Option Node) : Analyze (Option (Bool × String)) := do
  let some place := place? | return some (false, "")
  if place.hasKeyword "FIRST" then return some (true, "")
  let after := identifierName (place.child .identifier)
  if (b.table.findColumn (← caseSensitive) after).isNone then
    report .error .unknownObject (← memberName b after) place.start
      s!"unknown column {after} in AFTER clause"
    return none
  return some (false, after)

/-- Adds a column at the given placement, or at the end. -/
def insertColumn (b : TableBuilder) (defn : Node) (place? : Option Node) : Analyze TableBuilder := do
  let col ← newColumn defn
  let cs ← caseSensitive
  if (b.table.findColumn cs col.name).isSome then
    duplicate .column (← memberName b col.name) defn.start false
    release col.id
    return b
  match ← placement b place? with
  | none =>
    release col.id
    return b
  | some (first, after) =>
    let b ← update b fun t => { t with columns := insertColumnAt cs t.columns col first after }
    inlineConstraints b col defn

/-- Rewrites the column names held by the table's indexes and foreign keys. -/
def renameColumnRefs (b : TableBuilder) (old new : String) : Analyze TableBuilder := do
  if old == new then return b
  let cs ← caseSensitive
  let renamePart (ic : IndexColumn) : IndexColumn :=
    if !ic.name.isEmpty && nameEqual cs ic.name old then { ic with name := new } else ic
  let renameName (n : String) : String := if nameEqual cs n old then new else n
  update b fun t =>
    { t with
      indexes := t.indexes.map fun i => { i with columns := i.columns.map renamePart }
      foreignKeys := t.foreignKeys.map fun fk => { fk with columnNames := fk.columnNames.map renameName } }

/-- Replaces the column named `old` with a new definition (`CHANGE` and `MODIFY`). -/
def changeColumn (b : TableBuilder) (old : String) (defn : Node) (place? : Option Node) :
    Analyze TableBuilder := do
  let cs ← caseSensitive
  let some existing := b.table.findColumn cs old
    | report .error .unknownObject (← memberName b old) defn.start s!"unknown column {old}"
      return b
  let col ← newColumn defn
  if !nameEqual cs col.name existing.name && (b.table.findColumn cs col.name).isSome then
    duplicate .column (← memberName b col.name) defn.start false
    release col.id
    return b
  let mut b ← update b fun t =>
    { t with columns := t.columns.map fun c => if c.id == existing.id then col else c }
  if place?.isSome then
    if let some (first, after) ← placement b place? then
      b ← update b fun t =>
        { t with columns := insertColumnAt cs (t.columns.filter (·.id != col.id)) col first after }
  b ← renameColumnRefs b existing.name col.name
  let relink (c : Option Nat) : Option Nat := if c == some existing.id then some col.id else c
  b ← update b fun t =>
    { t with
      indexes := t.indexes.map fun i =>
        { i with columns := i.columns.map fun ic => { ic with column := relink ic.column } }
      foreignKeys := t.foreignKeys.map fun fk => { fk with columns := fk.columns.map relink } }
  release existing.id
  inlineConstraints b col defn

/-- Removes a column and its key parts; indexes left without key parts go too. -/
def dropColumn (b : TableBuilder) (name : String) (site : Node) : Analyze TableBuilder := do
  let cs ← caseSensitive
  let some col := b.table.findColumn cs name
    | report .error .unknownObject (← memberName b name) site.start s!"cannot drop column {name}: not found"
      return b
  let mut b ← update b fun t => { t with columns := t.columns.filter (·.id != col.id) }
  for idx in b.table.indexes do
    let kept := idx.columns.filter fun ic => !(!ic.name.isEmpty && nameEqual cs ic.name name)
    if kept.isEmpty then
      b ← update b fun t =>
        { t with indexes := t.indexes.filter (·.id != idx.id),
                 primaryKey := if t.primaryKey == some idx.id then none else t.primaryKey }
      release idx.id
    else
      b ← update b fun t => t.setIndex { idx with columns := kept }
  release col.id
  pure b

/-- Handles a table constraint. -/
def addConstraint (b : TableBuilder) (defn : Node) : Analyze TableBuilder := do
  let cs ← caseSensitive
  let kind := constraintKind defn
  let symbol := identifierName (defn.child .identifier)
  let explicit := identifierName (defn.child .indexName)
  match kind with
  | "CHECK" =>
    match defn.child .expr with
    | some e => update b fun t => { t with checks := t.checks ++ [e.text] }
    | none => pure b
  | "FOREIGN" =>
    let names := (← keyParts b (defn.child .keyList)).map (·.name)
    addForeignKey b symbol explicit names (defn.child .references) (some defn)
  | _ =>
    match indexTypeOf kind with
    | none =>
      report .warning .unsupported (← qualified b) defn.start s!"unsupported constraint {kind}"
      pure b
    | some type =>
      let id ← issue .index ""
      let idx ← indexDetails b { id := id, name := "", type := type } defn
      let name :=
        if type == .primary then "PRIMARY"
        else if !explicit.isEmpty then explicit
        else if !symbol.isEmpty && type == .unique then symbol
        else freeIndexName cs b.table (firstKeyName idx)
      rename id name
      pure (← addIndex b { idx with name := name } (some defn)).2

/-- Removes the named index; foreign keys it supported lose their link. -/
def dropIndex (b : TableBuilder) (name : String) (site : Node) : Analyze TableBuilder := do
  let some idx := b.table.findIndex (← caseSensitive) name
    | report .error .unknownObject (← memberName b name) site.start s!"cannot drop index {name}: not found"
      return b
  let b ← update b fun t =>
    { t with indexes := t.indexes.filter (·.id != idx.id),
             primaryKey := if t.primaryKey == some idx.id then none else t.primaryKey,
             foreignKeys := t.foreignKeys.map fun fk =>
               if fk.index == some idx.id then { fk with index := none } else fk }
  release idx.id
  pure b

/-- Removes the named foreign key; its supporting index stays. -/
def dropForeignKey (b : TableBuilder) (name : String) (site : Node) : Analyze TableBuilder := do
  let some fk := b.table.findForeignKey (← caseSensitive) name
    | report .error .unknownObject (← memberName b name) site.start s!"cannot drop foreign key {name}: not found"
      return b
  let b ← update b fun t => { t with foreignKeys := t.foreignKeys.filter (·.id != fk.id) }
  release fk.id
  pure b

/-- Links a foreign key to an index whose leading key parts are its columns, creating one
when there is none. -/
def supportingIndex (b : TableBuilder) (fk : ForeignKey) (indexName : String) :
    Analyze TableBuilder := do
  let cs ← caseSensitive
  let link (b : TableBuilder) (idx : Nat) : Analyze TableBuilder :=
    update b fun t => t.setForeignKey { fk with index := some idx }
  match b.table.indexes.find? (coversColumns cs · fk.columnNames) with
  | some idx => link b idx.id
  | none =>
    let name :=
      if !indexName.isEmpty then indexName
      else if !fk.name.isEmpty then fk.name
      else match fk.columnNames.head? with
        | some c => freeIndexName cs b.table c
        | none => ""
    match b.table.findIndex cs name with
    | some idx => link b idx.id
    | none =>
      let id ← issue .index name
      let idx : Index := { id := id, name := name, type := .foreign,
                           columns := fk.columnNames.map fun c => { name := c } }
      let b ← update b fun t => { t with indexes := t.indexes ++ [idx] }
      let b := { b with refs := b.refs ++ [.indexColumns b.table.id id] }
      link b id

/-- A charset or collation name, with `DEFAULT` standing for `fallback`. -/
def orDefault (n : Option Node) (fallback : String) : String :=
  let v := nameValue n
  if v == "default" then fallback else v

/-- Applies an option that takes a single value. -/
def simpleOption (o : TableOptions) (kw value : String) : TableOptions :=
  match kw with
  | "ENGINE" | "TYPE" => { o with engine := value }
  | "AUTO_INCREMENT" => { o with autoIncrement := value }
  | "AVG_ROW_LENGTH" => { o with avgRowLength := value }
  | "MAX_ROWS" => { o with maxRows := value }
  | "MIN_ROWS" => { o with minRows := value }
  | "KEY_BLOCK_SIZE" => { o with keyBlockSize := value }
  | "PACK_KEYS" => { o with packKeys := Text.upper value }
  | "CHECKSUM" | "TABLE_CHECKSUM" => { o with checksum := value == "1" }
  | "DELAY_KEY_WRITE" => { o with delayKeyWrite := value == "1" }
  | "ROW_FORMAT" => { o with rowFormat := Text.upper value }
  | "STATS_AUTO_RECALC" => { o with statsAutoRecalc := Text.upper value }
  | "STATS_PERSISTENT" => { o with statsPersistent := Text.upper value }
  | "STATS_SAMPLE_PAGES" => { o with statsSamplePages := Text.upper value }
  | "INSERT_METHOD" => { o with insertMethod := Text.upper value }
  | _ => o.setOther kw value

/-- Applies a table option. -/
def tableOption (opts : Options) (o : TableOptions) (opt : Node) : TableOptions :=
  let words := match opt.words with
    | "DEFAULT" :: rest => rest
    | ws => ws
  let kw := words.headD ""
  if (opt.child .charsetNameOrDefault).isSome then
    { o with charset := orDefault (opt.child .charsetNameOrDefault) opts.defaultCharset }
  else if (opt.child .collationNameOrDefault).isSome then
    { o with collation := orDefault (opt.child .collationNameOrDefault) opts.defaultCollation }
  else match kw with
    | "COMMENT" => { o with comment := textValue (opt.child .textLiteral) }
    | "CONNECTION" => { o with connection := textValue (opt.child .textLiteral) }
    | "PASSWORD" => { o with password := textValue (opt.child .textLiteral) }
    | "COMPRESSION" => { o with compression := textValue (opt.child .textLiteral) }
    | "ENCRYPTION" => { o with encryption := textValue (opt.child .textLiteral) }
    | "DATA" => { o with dataDirectory := textValue (opt.child .textLiteral) }
    | "INDEX" => { o with indexDirectory := textValue (opt.child .textLiteral) }
    | "UNION" => { o with mergeUnion :=
        (opt.childrenOf .tableRef).map fun r => ".".intercalate (identifierParts (some r)) }
    | "TABLESPACE" =>
      let storage := wordAfter opt "STORAGE"
      { o with tablespace := identifierName (opt.child .identifier),
               storage := if storage.isEmpty then o.storage else storage }
    | "STORAGE" => { o with storage := wordAfter opt "STORAGE" }
    | _ => simpleOption o kw opt.value

/-- Applies a `CreateTableOption`. -/
def option (b : TableBuilder) (opt : Node) : Analyze TableBuilder := do
  let opts ← options
  update b fun t => { t with options := tableOption opts t.options opt }

/-- Completes the changes: supporting indexes for new foreign keys, `NOT NULL` on primary key
columns, charsets of character columns, and the buffered references handed to the unit. -/
def finish (b : TableBuilder) : Analyze TableBuilder := do
  let mut b := b
  for (fkId, indexName) in b.pending do
    if let some fk := b.table.foreignKeys.find? (·.id == fkId) then
      if fk.index.isNone then b ← supportingIndex b fk indexName
  b := { b with pending := [] }
  let cs ← caseSensitive
  if let some pk := b.table.primaryIndex then
    for name in pk.columnNames do
      if let some col := b.table.findColumn cs name then
        b ← update b fun t =>
          { t with columns := t.columns.map fun c => if c.id == col.id then { c with notNull := true } else c }
  let schemaCharset := ((← schemaById b.schema).map (·.charset)).getD ""
  let fallback := (← options).defaultCharset
  let charset :=
    if !b.table.options.charset.isEmpty then b.table.options.charset
    else if !schemaCharset.isEmpty then schemaCharset
    else fallback
  b ← update b fun t => { t with columns := t.columns.map fun c =>
    if c.dataType.charset.isEmpty && (c.dataType.simple.map (·.characterType)).getD false then
      { c with dataType := { c.dataType with charset := charset } }
    else c }
  pushRefs b.refs
  pure { b with refs := [] }

/-- Copies the columns, indexes, options, partitioning and checks of `src` (`CREATE TABLE ...
LIKE`); foreign keys are not copied, and their supporting indexes become plain ones. -/
def copyDefinition (b : TableBuilder) (src : Table) : Analyze TableBuilder := do
  let mut b := b
  for col in src.columns do
    let id ← issue .column col.name
    b ← update b fun t => { t with columns := t.columns ++ [{ col with id := id }] }
  for idx in src.indexes do
    let type := if idx.type == .foreign then .plain else idx.type
    let id ← issue .index idx.name
    let copy : Index :=
      { id := id, name := idx.name, type := type, algorithm := idx.algorithm,
        comment := idx.comment, parser := idx.parser, keyBlockSize := idx.keyBlockSize,
        invisible := idx.invisible, columns := idx.columns.map ({ · with column := none }) }
    b := (← addIndex b copy none).2
  update b fun t => { t with options := src.options, partitioning := src.partitioning,
                             checks := t.checks ++ src.checks }

end Analyze

end DdlCatalog.Analysis
