import DdlCatalog.Syntax.Parse.Common
/-!
Databases, views, servers, tablespaces and logfile groups: `CREATE DATABASE` options, view
algorithm, security and check option, server options, and tablespace and logfile group
options.
-/

namespace DdlCatalog.Syntax.Parse

open DdlCatalog.Sql

/-- One option of `CREATE DATABASE`. -/
def databaseOption : Parse Unit := node .createDatabaseOption do
  discard (accept "DEFAULT")
  if (← isCharsetKeyword) then
    charsetKeyword
    acceptEquals
    charsetName .charsetNameOrDefault
  else if (← isWord "COLLATE") then
    skip
    acceptEquals
    charsetName .collationNameOrDefault
  else if (← isAny ["ENCRYPTION", "COMMENT"]) then
    skip
    acceptEquals
    textLiteral
  else if (← isWord "READ") && (← peek).isWord "ONLY" then
    skip
    skip
    acceptEquals
    unless (← accept? .number) do expectKw ["DEFAULT"]
  else failAt .unsupportedClause

/-- The rest of `CREATE DATABASE` or `CREATE SCHEMA`. -/
def createDatabase : Parse Unit := do
  skip
  ifNotExists
  identifier
  loop do
    if (← atEnd) then return false
    databaseOption
    return true

/-- `ALGORITHM = UNDEFINED | MERGE | TEMPTABLE`. -/
def viewAlgorithm : Parse Unit := node .viewAlgorithm do
  expectKw ["ALGORITHM"]
  expect .eq
  unless (← isAny ["UNDEFINED", "MERGE", "TEMPTABLE"]) do
    failAt (.unexpectedToken · "UNDEFINED, MERGE or TEMPTABLE")
  skip

/-- `SQL SECURITY DEFINER | INVOKER`. -/
def viewSuid : Parse Unit := node .viewSuid do
  expectKw ["SQL", "SECURITY"]
  unless (← isAny ["DEFINER", "INVOKER"]) do failAt (.unexpectedToken · "DEFINER or INVOKER")
  skip

/-- Whether a view's check option starts here. -/
def atCheckOption : Parse Bool := do
  return (← isSeq ["WITH", "CHECK", "OPTION"]) || (← isSeq ["WITH", "CASCADED", "CHECK"]) ||
    (← isSeq ["WITH", "LOCAL", "CHECK"])

/-- The rest of `CREATE VIEW`. -/
def createView : Parse Unit := do
  expectKw ["VIEW"]
  named .tableName
  if (← check .lparen) then columnList
  expectKw ["AS"]
  exprUntil atCheckOption
  if (← isWord "WITH") then
    node .viewCheckOption do
      skip
      unless (← accept "CASCADED") do discard (accept "LOCAL")
      expectKw ["CHECK", "OPTION"]

/-- One option of `CREATE SERVER`. -/
def serverOption : Parse Unit := node .serverOption do
  if (← isAny ["HOST", "DATABASE", "USER", "PASSWORD", "SOCKET", "OWNER"]) then
    skip
    textLiteral
  else if (← isWord "PORT") then skip; number
  else failAt (.unexpectedToken · "server option")

/-- The rest of `CREATE SERVER`. -/
def createServer : Parse Unit := do
  expectKw ["SERVER"]
  textOrIdentifier
  expectKw ["FOREIGN", "DATA", "WRAPPER"]
  textOrIdentifier
  expectKw ["OPTIONS"]
  expect .lparen
  commaList serverOption
  expect .rparen

/-- One option of a tablespace or logfile group, inside a node of kind `kind`. -/
def storageOption (kind : NodeKind) : Parse Unit := node kind do
  if (← isAny ["INITIAL_SIZE", "AUTOEXTEND_SIZE", "MAX_SIZE", "EXTENT_SIZE", "FILE_BLOCK_SIZE",
      "UNDO_BUFFER_SIZE", "REDO_BUFFER_SIZE"]) then
    skip
    acceptEquals
    sizeNumber
  else if (← isWord "NODEGROUP") then skip; acceptEquals; number
  else if (← isAny ["STORAGE", "ENGINE"]) then
    discard (accept "STORAGE")
    expectKw ["ENGINE"]
    acceptEquals
    textOrIdentifier
  else if (← isAny ["WAIT", "NO_WAIT"]) then skip
  else if (← isAny ["COMMENT", "ENCRYPTION"]) then skip; acceptEquals; textLiteral
  else failAt .unsupportedClause

/-- Storage options separated by optional commas, up to the end of the statement. -/
def storageOptions (kind : NodeKind) : Parse Unit := loop do
  if (← atEnd) then return false
  storageOption kind
  discard (accept? .comma)
  return true

/-- The rest of `CREATE TABLESPACE`. -/
def createTablespace : Parse Unit := do
  expectKw ["TABLESPACE"]
  identifier
  if (← accept "ADD") then
    expectKw ["DATAFILE"]
    textLiteral
  if (← isWord "USE") then
    node .logfileGroupRef do
      expectKw ["USE", "LOGFILE", "GROUP"]
      identifier
  storageOptions .tablespaceOption

/-- The rest of `CREATE LOGFILE GROUP`. -/
def createLogfileGroup : Parse Unit := do
  expectKw ["LOGFILE", "GROUP"]
  identifier
  expectKw ["ADD", "UNDOFILE"]
  textLiteral
  storageOptions .logfileGroupOption

end DdlCatalog.Syntax.Parse
