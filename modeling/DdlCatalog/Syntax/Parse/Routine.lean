import DdlCatalog.Syntax.Parse.DataType
/-!
Stored programs: procedures, stored functions, loadable functions, triggers and events, with
their parameters, characteristics, schedules and bodies.
-/

namespace DdlCatalog.Syntax.Parse

open DdlCatalog.Sql

/-- Whether a routine characteristic comes next. -/
def startsRoutineOption : Parse Bool := do
  return (← isAny ["COMMENT", "LANGUAGE", "DETERMINISTIC", "CONTAINS", "READS", "MODIFIES"]) ||
    (← isSeq ["NOT", "DETERMINISTIC"]) || (← isSeq ["NO", "SQL"]) || (← isSeq ["SQL", "SECURITY"])

/-- One routine characteristic. -/
def routineOption : Parse Unit := node .routineOption do
  if (← isWord "COMMENT") then skip; textLiteral
  else if (← isWord "LANGUAGE") then expectKw ["LANGUAGE", "SQL"]
  else if (← isWord "NOT") then expectKw ["NOT", "DETERMINISTIC"]
  else if (← isWord "DETERMINISTIC") then skip
  else if (← isWord "CONTAINS") then expectKw ["CONTAINS", "SQL"]
  else if (← isWord "NO") then expectKw ["NO", "SQL"]
  else if (← isAny ["READS", "MODIFIES"]) then skip; expectKw ["SQL", "DATA"]
  else if (← isWord "SQL") then
    expectKw ["SQL", "SECURITY"]
    unless (← isAny ["DEFINER", "INVOKER"]) do failAt (.unexpectedToken · "DEFINER or INVOKER")
    skip

/-- The characteristics of a routine. -/
def routineOptions : Parse Unit := loop do
  if (← startsRoutineOption) then routineOption; return true
  return false

/-- `( param, ... )` where each parameter is parsed by `param`; the list may be empty. -/
def parameterList (param : Parse Unit) : Parse Unit := do
  expect .lparen
  loop do
    if (← check .rparen) then return false
    param
    accept? .comma
  expect .rparen

/-- The rest of `CREATE PROCEDURE`. -/
def createProcedure : Parse Unit := do
  expectKw ["PROCEDURE"]
  ifNotExists
  qualifiedIdentifier
  parameterList <| node .procedureParameter do
    unless (← accept "IN") do
      unless (← accept "OUT") do discard (accept "INOUT")
    identifier
    dataType
  routineOptions
  body

/-- The rest of `CREATE FUNCTION`: a loadable function when `RETURNS` follows the name, a
stored function otherwise. Returns which of the two it is. -/
def createFunction : Parse NodeKind := do
  expectKw ["FUNCTION"]
  ifNotExists
  qualifiedIdentifier
  if (← isWord "RETURNS") then
    node .returnsClause do
      skip
      unless (← isAny ["STRING", "INTEGER", "INT", "REAL", "DECIMAL"]) do
        failAt (.unexpectedToken · "STRING, INTEGER, REAL or DECIMAL")
      skip
    expectKw ["SONAME"]
    textLiteral
    return .createUdf
  parameterList <| node .functionParameter do
    identifier
    dataType
  node .returnsClause do
    expectKw ["RETURNS"]
    dataType
  routineOptions
  body
  return .createFunction

/-- The rest of `CREATE TRIGGER`. -/
def createTrigger : Parse Unit := do
  expectKw ["TRIGGER"]
  ifNotExists
  qualifiedIdentifier
  unless (← isAny ["BEFORE", "AFTER"]) do failAt (.unexpectedToken · "BEFORE or AFTER")
  skip
  unless (← isAny ["INSERT", "UPDATE", "DELETE"]) do
    failAt (.unexpectedToken · "INSERT, UPDATE or DELETE")
  skip
  expectKw ["ON"]
  named .tableRef
  expectKw ["FOR", "EACH", "ROW"]
  if (← isAny ["FOLLOWS", "PRECEDES"]) then
    node .triggerFollowsPrecedesClause (do skip; identifier)
  body

/-- The interval units of a recurring schedule. -/
def intervalUnits : List String :=
  ["MICROSECOND", "SECOND", "MINUTE", "HOUR", "DAY", "WEEK", "MONTH", "QUARTER", "YEAR",
   "SECOND_MICROSECOND", "MINUTE_MICROSECOND", "MINUTE_SECOND", "HOUR_MICROSECOND",
   "HOUR_SECOND", "HOUR_MINUTE", "DAY_MICROSECOND", "DAY_SECOND", "DAY_MINUTE", "DAY_HOUR",
   "YEAR_MONTH"]

/-- Whether an event option or the body comes next. -/
def atEventOptions : Parse Bool := do
  return (← isSeq ["ON", "COMPLETION"]) || (← isAny ["ENABLE", "DISABLE", "COMMENT", "DO"])

/-- `AT expr` or `EVERY expr unit [STARTS expr] [ENDS expr]`. -/
def schedule : Parse Unit := node .schedule do
  if (← accept "AT") then exprUntil atEventOptions
  else
    expectKw ["EVERY"]
    exprUntil (isAny intervalUnits)
    unless (← isAny intervalUnits) do failAt (.unexpectedToken · "interval unit")
    skip
    if (← accept "STARTS") then
      exprUntil (do return (← isWord "ENDS") || (← atEventOptions))
    if (← accept "ENDS") then exprUntil atEventOptions

/-- One event option. -/
def eventOption : Parse Unit := node .eventOption do
  if (← isWord "ON") then
    expectKw ["ON", "COMPLETION"]
    discard (accept "NOT")
    expectKw ["PRESERVE"]
  else if (← isWord "ENABLE") then skip
  else if (← isWord "DISABLE") then
    skip
    if (← accept "ON") then
      unless (← isAny ["SLAVE", "REPLICA"]) do failAt (.unexpectedToken · "SLAVE or REPLICA")
      skip
  else if (← isWord "COMMENT") then skip; textLiteral
  else failAt (.unexpectedToken · "DO")

/-- The rest of `CREATE EVENT`. -/
def createEvent : Parse Unit := do
  expectKw ["EVENT"]
  ifNotExists
  qualifiedIdentifier
  expectKw ["ON", "SCHEDULE"]
  schedule
  loop do
    if (← isWord "DO") || (← atEnd) then return false
    eventOption
    return true
  expectKw ["DO"]
  body

end DdlCatalog.Syntax.Parse
