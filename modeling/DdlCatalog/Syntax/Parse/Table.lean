import DdlCatalog.Syntax.Parse.DataType
import DdlCatalog.Syntax.Parse.Partition
/-!
`CREATE TABLE`: the element list of column definitions and constraints, indexes and their key
parts and options, foreign key references, table options, partitioning, and the `LIKE` and
`AS SELECT` forms.
-/

namespace DdlCatalog.Syntax.Parse

open DdlCatalog.Sql

/-- `[NOT] ENFORCED` after a check constraint. -/
def enforced : Parse Unit := do
  if (← isSeq ["NOT", "ENFORCED"]) then discard (acceptSeq ["NOT", "ENFORCED"])
  else discard (accept "ENFORCED")

/-- `[GENERATED ALWAYS] AS (expr) [VIRTUAL | STORED]`. -/
def generatedClause : Parse Unit := node .generatedClause do
  if (← accept "GENERATED") then expectKw ["ALWAYS"]
  expectKw ["AS"]
  parenExpr
  unless (← accept "VIRTUAL") do discard (accept "STORED")

/-- Whether a column attribute comes next. -/
def startsColumnAttribute : Parse Bool := do
  return (← isAny ["NOT", "NULL", "DEFAULT", "AUTO_INCREMENT", "SERIAL", "PRIMARY", "KEY",
    "UNIQUE", "COMMENT", "COLLATE", "COLUMN_FORMAT", "STORAGE", "VISIBLE", "INVISIBLE", "SRID",
    "CHECK", "CONSTRAINT"]) || (← isSeq ["ON", "UPDATE"])

/-- One column attribute. -/
def columnAttribute : Parse Unit := node .columnAttribute do
  if (← isWord "NOT") then
    skip
    unless (← accept "NULL") do expectKw ["SECONDARY"]
  else if (← isAny ["NULL", "AUTO_INCREMENT", "VISIBLE", "INVISIBLE"]) then skip
  else if (← isWord "DEFAULT") then skip; defaultValue
  else if (← isWord "ON") then expectKw ["ON", "UPDATE"]; defaultValue
  else if (← isWord "SERIAL") then expectKw ["SERIAL", "DEFAULT", "VALUE"]
  else if (← isWord "PRIMARY") then skip; expectKw ["KEY"]
  else if (← isWord "KEY") then skip
  else if (← isWord "UNIQUE") then skip; discard (accept "KEY")
  else if (← isWord "COMMENT") then skip; textLiteral
  else if (← isWord "COLLATE") then skip; charsetName .collationName
  else if (← isAny ["COLUMN_FORMAT", "STORAGE"]) then
    skip
    unless (← check .ident) do failAt .expectedIdentifier
    skip
  else if (← isWord "SRID") then skip; number
  else if (← isAny ["CONSTRAINT", "CHECK"]) then
    if (← accept "CONSTRAINT") then
      unless (← isWord "CHECK") do identifier
    expectKw ["CHECK"]
    parenExpr
    enforced

/-- `REFERENCES table [(columns)] [MATCH ...] {ON DELETE | ON UPDATE action}`. -/
def references : Parse Unit := node .references do
  expectKw ["REFERENCES"]
  named .tableRef
  if (← check .lparen) then columnList
  if (← accept "MATCH") then
    unless (← isAny ["FULL", "PARTIAL", "SIMPLE"]) do
      failAt (.unexpectedToken · "FULL, PARTIAL or SIMPLE")
    skip
  loop do
    if (← isSeq ["ON", "DELETE"]) || (← isSeq ["ON", "UPDATE"]) then
      node .referenceOption do
        skip
        skip
        if (← isAny ["RESTRICT", "CASCADE"]) then skip
        else if (← isWord "SET") then
          skip
          unless (← accept "NULL") do expectKw ["DEFAULT"]
        else if (← isWord "NO") then expectKw ["NO", "ACTION"]
        else failAt (.unexpectedToken · "reference option")
      return true
    return false

/-- A column definition: name, data type, then attributes, generated clauses and references
in any order. -/
def columnDefinition : Parse Unit := node .columnDefinition do
  identifier
  dataType
  loop do
    if (← isAny ["GENERATED", "AS"]) then generatedClause; return true
    if (← isWord "REFERENCES") then references; return true
    if (← startsColumnAttribute) then columnAttribute; return true
    return false

/-- Whether a table constraint starts here. -/
def startsConstraint : Parse Bool :=
  isAny ["CONSTRAINT", "PRIMARY", "UNIQUE", "FOREIGN", "CHECK", "KEY", "INDEX", "FULLTEXT",
    "SPATIAL"]

/-- An index name, unless what follows is no identifier or is `TYPE` with an index type. -/
def optionalIndexName : Parse Unit := do
  let t ← cur
  let after ← peek
  if !t.isIdentifier ||
      (t.isWord "TYPE" && after.isAnyWord ["BTREE", "HASH", "RTREE"]) then return
  node .indexName identifier

/-- `USING | TYPE (BTREE | HASH | RTREE)`. -/
def indexType : Parse Unit := node .indexType do
  skip
  unless (← isAny ["BTREE", "HASH", "RTREE"]) do
    failAt (.unexpectedToken · "BTREE, HASH or RTREE")
  skip

/-- An optional index type. -/
def optionalIndexType : Parse Unit := do
  if (← isAny ["USING", "TYPE"]) then indexType

/-- One key part: a column with an optional prefix length, or a parenthesised expression,
then an optional direction. -/
def keyPart : Parse Unit := node .keyPart do
  if (← check .lparen) then parenExpr
  else
    identifier
    if (← check .lparen) then
      skip
      number
      expect .rparen
  unless (← accept "ASC") do discard (accept "DESC")

/-- `( key_part, ... )`. -/
def keyList : Parse Unit := node .keyList do
  expect .lparen
  commaList keyPart
  expect .rparen

/-- Whether an index option comes next. -/
def startsIndexOption : Parse Bool := do
  return (← isAny ["KEY_BLOCK_SIZE", "COMMENT", "VISIBLE", "INVISIBLE", "ENGINE_ATTRIBUTE",
    "SECONDARY_ENGINE_ATTRIBUTE"]) || (← isSeq ["WITH", "PARSER"])

/-- One index option. -/
def indexOption : Parse Unit := node .indexOption do
  if (← isWord "KEY_BLOCK_SIZE") then skip; acceptEquals; number
  else if (← isWord "COMMENT") then skip; textLiteral
  else if (← isWord "WITH") then expectKw ["WITH", "PARSER"]; identifier
  else if (← isAny ["ENGINE_ATTRIBUTE", "SECONDARY_ENGINE_ATTRIBUTE"]) then
    skip
    acceptEquals
    textLiteral
  else skip

/-- Index options and trailing index types, in any order. -/
def indexOptions : Parse Unit := loop do
  if (← isAny ["USING", "TYPE"]) then indexType; return true
  if (← startsIndexOption) then indexOption; return true
  return false

/-- An index, key, foreign key or check constraint of an element list. -/
def tableConstraintDef : Parse Unit := node .tableConstraintDef do
  if (← isAny ["KEY", "INDEX"]) then
    skip
    optionalIndexName
    optionalIndexType
    keyList
    indexOptions
  else if (← isAny ["FULLTEXT", "SPATIAL"]) then
    skip
    unless (← accept "KEY") do discard (accept "INDEX")
    optionalIndexName
    keyList
    indexOptions
  else
    if (← accept "CONSTRAINT") then
      if (← cur).isIdentifier then identifier
    if (← isWord "PRIMARY") then
      expectKw ["PRIMARY", "KEY"]
      optionalIndexType
      keyList
      indexOptions
    else if (← isWord "UNIQUE") then
      skip
      unless (← accept "KEY") do discard (accept "INDEX")
      optionalIndexName
      optionalIndexType
      keyList
      indexOptions
    else if (← isWord "FOREIGN") then
      expectKw ["FOREIGN", "KEY"]
      optionalIndexName
      keyList
      references
    else if (← isWord "CHECK") then
      skip
      parenExpr
      enforced
    else failAt (.unexpectedToken · "PRIMARY, UNIQUE, FOREIGN or CHECK")

/-- `( element, ... )`, each a column definition or a constraint. -/
def tableElementList : Parse Unit := node .tableElementList do
  expect .lparen
  commaList do
    if (← startsConstraint) then tableConstraintDef else columnDefinition
  expect .rparen

/-- Table options that take a single value. -/
def simpleTableOptions : List String :=
  ["ENGINE", "TYPE", "AUTO_INCREMENT", "AVG_ROW_LENGTH", "MAX_ROWS", "MIN_ROWS", "KEY_BLOCK_SIZE",
   "PACK_KEYS", "CHECKSUM", "TABLE_CHECKSUM", "DELAY_KEY_WRITE", "ROW_FORMAT",
   "STATS_PERSISTENT", "STATS_AUTO_RECALC", "STATS_SAMPLE_PAGES", "INSERT_METHOD",
   "AUTOEXTEND_SIZE"]

/-- Table options that take a string. -/
def textTableOptions : List String :=
  ["COMMENT", "CONNECTION", "PASSWORD", "COMPRESSION", "ENCRYPTION", "ENGINE_ATTRIBUTE",
   "SECONDARY_ENGINE_ATTRIBUTE"]

/-- Whether a table option comes next. -/
def startsTableOption : Parse Bool := do
  if (← isAny simpleTableOptions) || (← isAny textTableOptions) then return true
  if (← isAny ["UNION", "TABLESPACE", "STORAGE", "COLLATE"]) || (← isCharsetKeyword) then
    return true
  if (← isSeq ["DATA", "DIRECTORY"]) || (← isSeq ["INDEX", "DIRECTORY"]) then return true
  return (← isWord "DEFAULT") && (← peek).isAnyWord ["CHARSET", "CHARACTER", "CHAR", "COLLATE"]

/-- The value of an option that takes one: a number, a word, a quoted name or a string. -/
def optionValue : Parse Unit := do
  match (← cur).kind with
  | .number | .ident | .quotedIdent | .string => skip
  | _ => failAt (.unexpectedToken · "option value")

/-- One table option. -/
def tableOption : Parse Unit := node .createTableOption do
  discard (accept "DEFAULT")
  if (← isCharsetKeyword) then
    charsetKeyword
    acceptEquals
    charsetName .charsetNameOrDefault
  else if (← isWord "COLLATE") then
    skip
    acceptEquals
    charsetName .collationNameOrDefault
  else if (← isAny textTableOptions) then skip; acceptEquals; textLiteral
  else if (← isAny ["DATA", "INDEX"]) then
    skip
    expectKw ["DIRECTORY"]
    acceptEquals
    textLiteral
  else if (← isWord "UNION") then
    skip
    acceptEquals
    expect .lparen
    commaList (named .tableRef)
    expect .rparen
  else if (← isWord "TABLESPACE") then
    skip
    acceptEquals
    identifier
    if (← accept "STORAGE") then expectWord
  else if (← isWord "STORAGE") then skip; expectWord
  else
    skip
    acceptEquals
    optionValue

/-- The rest of `CREATE TABLE`, after the prefix words. -/
def createTable : Parse Unit := do
  expectKw ["TABLE"]
  ifNotExists
  named .tableName
  if (← isWord "LIKE") then
    node .tableCreationSource do
      skip
      named .tableRef
    return
  if (← check .lparen) && (← peek).isWord "LIKE" then
    node .tableCreationSource do
      skip
      skip
      named .tableRef
      expect .rparen
    return
  if (← check .lparen) && !(← peek).isAnyWord ["SELECT", "WITH"] then tableElementList
  if (← startsTableOption) then
    node .createTableOptions (loop do
      if (← startsTableOption) then
        tableOption
        discard (accept? .comma)
        return true
      return false)
  if (← isSeq ["PARTITION", "BY"]) then partitioning
  unless (← atEnd) do
    node .tableCreationSource do
      unless (← accept "IGNORE") do discard (accept "REPLACE")
      discard (accept "AS")
      expr

end DdlCatalog.Syntax.Parse
