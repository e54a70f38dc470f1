import DdlCatalog.Analysis.Builder
/-!
The items of `ALTER TABLE`: adding, changing, dropping and renaming columns, indexes and
foreign keys, renaming or moving the table, visibility and defaults, charset conversion and
table options. Items the analysis does not follow are noted as informational diagnostics.
-/

namespace DdlCatalog.Analysis

open DdlCatalog.Syntax
open DdlCatalog.Catalog

/-- The first two words of an item, for diagnostics. -/
def firstWords (n : Node) : String := " ".intercalate (n.words.take 2)

namespace Analyze

/-- Notes an item that is not analysed. -/
def notAnalysed (b : TableBuilder) (n : Node) : Analyze TableBuilder := do
  report .info .unsupported (← qualified b) n.start s!"alter table item {firstWords n} is not analysed"
  pure b

/-- `ADD` a constraint, a parenthesised element list, or one column. -/
def alterAdd (b : TableBuilder) (n : Node) : Analyze TableBuilder := do
  if let some c := n.child .tableConstraintDef then return ← addConstraint b c
  if let some list := n.child .tableElementList then
    let mut b := b
    for c in list.children do
      match c.kind? with
      | some .columnDefinition => b ← insertColumn b c none
      | some .tableConstraintDef => b ← addConstraint b c
      | _ => pure ()
    return b
  if let some c := n.child .columnDefinition then return ← insertColumn b c (n.child .place)
  notAnalysed b n

/-- `DROP` an index, the primary key, a foreign key or a column. -/
def alterDrop (b : TableBuilder) (n : Node) : Analyze TableBuilder := do
  let name := identifierName (n.child .identifier)
  match n.words[1]? with
  | some "INDEX" | some "KEY" => dropIndex b name n
  | some "PRIMARY" =>
    match b.table.primaryIndex with
    | none =>
      report .error .unknownObject (← memberName b "PRIMARY") n.start "cannot drop primary key: not defined"
      pure b
    | some pk => dropIndex b pk.name n
  | some "FOREIGN" => dropForeignKey b name n
  | some "CHECK" | some "CONSTRAINT" | some "PARTITION" => notAnalysed b n
  | _ => dropColumn b name n

/-- Renames or moves the table. -/
def renameTable (b : TableBuilder) (n : Node) : Analyze TableBuilder := do
  let (schemaName, name) := splitQualified (identifierParts (n.child .tableName))
  let target ← if schemaName.isEmpty then pure (← schemaById b.schema)
    else pure (some (← ensureSchema schemaName))
  let some target := target | return b
  let cs ← caseSensitive
  if let some existing := target.findTable cs name then
    if existing.id != b.table.id then
      duplicate .table (target.name ++ "." ++ name) n.start false
      return b
  rename b.table.id name
  let b := { b with table := { b.table with name := name } }
  if target.id != b.schema then
    modifyCatalog fun c => (c.detachTable b.schema b.table.id).appendTable target.id b.table
    pure { b with schema := target.id }
  else update b id

/-- `RENAME INDEX`, `RENAME COLUMN`, or a rename of the table. -/
def alterRename (b : TableBuilder) (n : Node) : Analyze TableBuilder := do
  let cs ← caseSensitive
  match n.words[1]?, (n.childrenOf .identifier).map (fun i => identifierName (some i)) with
  | some kw, [source, dest] =>
    if kw == "INDEX" || kw == "KEY" then
      match b.table.findIndex cs source with
      | none =>
        report .error .unknownObject (← memberName b source) n.start s!"cannot rename index {source}: not found"
        pure b
      | some idx =>
        if (b.table.findIndex cs dest).isSome then
          duplicate .index (← memberName b dest) n.start false
          pure b
        else
          rename idx.id dest
          update b (·.setIndex { idx with name := dest })
    else if kw == "COLUMN" then
      match b.table.findColumn cs source with
      | none =>
        report .error .unknownObject (← memberName b source) n.start s!"cannot rename column {source}: not found"
        pure b
      | some col =>
        if !nameEqual cs source dest && (b.table.findColumn cs dest).isSome then
          duplicate .column (← memberName b dest) n.start false
          pure b
        else
          rename col.id dest
          let b ← update b fun t => { t with columns := t.columns.map fun c =>
            if c.id == col.id then { c with name := dest } else c }
          renameColumnRefs b source dest
    else renameTable b n
  | _, _ => renameTable b n

/-- `ALTER INDEX ... [IN]VISIBLE` or `ALTER [COLUMN] ...` visibility and default. -/
def alterAlter (b : TableBuilder) (n : Node) : Analyze TableBuilder := do
  let cs ← caseSensitive
  let name := identifierName (n.child .identifier)
  if n.hasKeyword "INDEX" then
    match b.table.findIndex cs name with
    | none =>
      report .error .unknownObject (← memberName b name) n.start s!"unknown index {name}"
      pure b
    | some idx => update b (·.setIndex { idx with invisible := n.hasKeyword "INVISIBLE" })
  else
    match b.table.findColumn cs name with
    | none =>
      report .error .unknownObject (← memberName b name) n.start s!"unknown column {name}"
      pure b
    | some col =>
      let col :=
        if n.hasKeyword "VISIBLE" then { col with invisible := false }
        else if n.hasKeyword "INVISIBLE" then { col with invisible := true }
        else if n.hasKeyword "SET" then { col with default := exprText n, hasDefault := true }
        else { col with default := "", hasDefault := false }
      update b fun t => { t with columns := t.columns.map fun c => if c.id == col.id then col else c }

/-- `CONVERT TO CHARACTER SET`: the table and its character columns take the charset and
collation. -/
def alterConvert (b : TableBuilder) (n : Node) : Analyze TableBuilder :=
  let charset := nameValue (n.child .charsetName)
  let collation := nameValue (n.child .collationName)
  update b fun t =>
    { t with
      options := { t.options with charset := charset, collation := collation }
      columns := t.columns.map fun c =>
        if (c.dataType.simple.map (·.characterType)).getD false then
          { c with dataType := { c.dataType with charset := charset, collation := collation } }
        else c }

/-- `CHANGE` or `MODIFY` of the column `old` in an item without a column definition, as an item
kept as raw tokens is. The column is looked up as for a change; when it exists, the handle of
its replacement is issued and building the replacement from the missing definition faults. -/
def changeWithoutDefinition (b : TableBuilder) (old : String) : Analyze TableBuilder := do
  let cs ← caseSensitive
  let some _ := b.table.findColumn cs old
    | report .error .unknownObject (← memberName b old) (nodePos none) s!"unknown column {old}"
      return b
  let _ ← issue .column ""
  pure { b with faulted := true }

/-- Applies one `ALTER TABLE` item. -/
def alterItem (b : TableBuilder) (n : Node) : Analyze TableBuilder := do
  if let some opt := n.child .createTableOption then
    if n.terminals.isEmpty then return ← option b opt
  match n.firstKeyword with
  | "ADD" => alterAdd b n
  | "CHANGE" =>
    match n.child .columnDefinition with
    | some defn => changeColumn b (identifierName (n.child .identifier)) defn (n.child .place)
    | none => changeWithoutDefinition b (identifierName (n.child .identifier))
  | "MODIFY" =>
    match n.child .columnDefinition with
    | some defn => changeColumn b (identifierName (defn.child .identifier)) defn (n.child .place)
    | none => changeWithoutDefinition b ""
  | "DROP" => alterDrop b n
  | "RENAME" => alterRename b n
  | "ALTER" => alterAlter b n
  | "CONVERT" => alterConvert b n
  | _ => notAnalysed b n

end Analyze

end DdlCatalog.Analysis
