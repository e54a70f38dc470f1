import DdlCatalog.Syntax.Parse.Common
/-!
`PARTITION BY` clauses: the partitioning function (`HASH`, `KEY`, `RANGE` or `LIST`), an
optional partition count, subpartitioning, and the partition definitions with their bounds,
options and subpartitions.
-/

namespace DdlCatalog.Syntax.Parse

open DdlCatalog.Sql

/-- `ALGORITHM = NUMBER` of a `KEY` partitioning, when present. -/
def keyAlgorithm : Parse Unit := do
  if (← isWord "ALGORITHM") then
    skip
    expect .eq
    number

/-- A column list that may be empty: `()` or `(a, b)`. -/
def optionalColumnList : Parse Unit := do
  if (← check .lparen) && (← peek).kind == .rparen then node .columnList (do skip; skip)
  else columnList

/-- `SUBPARTITION BY [LINEAR] (HASH (expr) | KEY ...) [SUBPARTITIONS n]`. -/
def subPartitions : Parse Unit := node .subPartitions do
  expectKw ["SUBPARTITION", "BY"]
  discard (accept "LINEAR")
  if (← accept "HASH") then parenExpr
  else if (← accept "KEY") then keyAlgorithm; optionalColumnList
  else failAt (.unexpectedToken · "HASH or KEY")
  if (← accept "SUBPARTITIONS") then number

/-- Whether a partition option comes next. -/
def startsPartitionOption : Parse Bool := do
  return (← isAny ["ENGINE", "COMMENT", "MAX_ROWS", "MIN_ROWS", "NODEGROUP", "TABLESPACE"]) ||
    (← isSeq ["STORAGE", "ENGINE"]) || (← isSeq ["DATA", "DIRECTORY"]) ||
    (← isSeq ["INDEX", "DIRECTORY"])

/-- One option of a partition or subpartition. -/
def partitionOption : Parse Unit := node .partitionOption do
  if (← isAny ["STORAGE", "ENGINE"]) then
    discard (accept "STORAGE")
    expectKw ["ENGINE"]
    acceptEquals
    textOrIdentifier
  else if (← isWord "COMMENT") then skip; acceptEquals; textLiteral
  else if (← isAny ["DATA", "INDEX"]) then
    skip
    expectKw ["DIRECTORY"]
    acceptEquals
    textLiteral
  else if (← isWord "TABLESPACE") then skip; acceptEquals; identifier
  else skip; acceptEquals; number

/-- The options of a partition or subpartition. -/
def partitionOptions : Parse Unit := loop do
  if (← startsPartitionOption) then partitionOption; return true
  return false

/-- `VALUES LESS THAN (...) | MAXVALUE` or `VALUES IN (...)`. -/
def partitionValues : Parse Unit := node .partitionValues do
  expectKw ["VALUES"]
  if (← isWord "LESS") then
    expectKw ["LESS", "THAN"]
    unless (← accept "MAXVALUE") do exprList
  else if (← isWord "IN") then skip; exprList
  else failAt (.unexpectedToken · "LESS THAN or IN")

/-- `SUBPARTITION name options`. -/
def subpartitionDefinition : Parse Unit := node .subpartitionDefinition do
  expectKw ["SUBPARTITION"]
  identifier
  partitionOptions

/-- `PARTITION name [values] options [(subpartitions)]`. -/
def partitionDefinition : Parse Unit := node .partitionDefinition do
  expectKw ["PARTITION"]
  identifier
  if (← isWord "VALUES") then partitionValues
  partitionOptions
  if (← check .lparen) then
    skip
    commaList subpartitionDefinition
    expect .rparen

/-- `( partition_definition, ... )`. -/
def partitionDefinitions : Parse Unit := node .partitionDefinitions do
  expect .lparen
  commaList partitionDefinition
  expect .rparen

/-- A `PARTITION BY` clause. -/
def partitioning : Parse Unit := node .partition do
  expectKw ["PARTITION", "BY"]
  if (← isSeq ["LINEAR", "HASH"]) || (← isWord "HASH") then
    node .partitionDefHash do
      discard (accept "LINEAR")
      expectKw ["HASH"]
      parenExpr
  else if (← isSeq ["LINEAR", "KEY"]) || (← isWord "KEY") then
    node .partitionDefKey do
      discard (accept "LINEAR")
      expectKw ["KEY"]
      keyAlgorithm
      optionalColumnList
  else if (← isAny ["RANGE", "LIST"]) then
    node .partitionDefRangeList do
      skip
      if (← accept "COLUMNS") then columnList else parenExpr
  else failAt (.unexpectedToken · "HASH, KEY, RANGE or LIST")
  if (← accept "PARTITIONS") then number
  if (← isSeq ["SUBPARTITION", "BY"]) then subPartitions
  if (← check .lparen) then partitionDefinitions

end DdlCatalog.Syntax.Parse
