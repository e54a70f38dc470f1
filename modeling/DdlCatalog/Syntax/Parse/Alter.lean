import DdlCatalog.Syntax.Parse.Table
/-!
`ALTER TABLE` and `CREATE INDEX`. An alter list holds items separated by optional commas: adding,
changing, modifying, dropping and renaming columns, indexes and keys, column defaults and
visibility, charset conversion, table options, and `ALGORITHM` and `LOCK` clauses. An item the
analyser has no use for keeps its raw tokens up to the next top-level comma.
-/

namespace DdlCatalog.Syntax.Parse

open DdlCatalog.Sql

/-- The tokens of an item the analyser ignores, up to the next comma outside parentheses. -/
def skipAlterItem : Parse Unit :=
  discard <| loopFrom (fun (depth : Int) => do
    if (← atEnd) then return (false, depth)
    let k := (← cur).kind
    if k == .comma && depth == 0 then return (false, depth)
    let depth' := if k == .lparen then depth + 1 else if k == .rparen then depth - 1 else depth
    skip
    return (true, depth')) 0

/-- `FIRST` or `AFTER column`, when present. -/
def place : Parse Unit := do
  if (← isWord "FIRST") then node .place skip
  else if (← isWord "AFTER") then node .place (do skip; identifier)

/-- `ALGORITHM [=] word`. -/
def alterAlgorithmOption : Parse Unit := node .alterAlgorithmOption do
  expectKw ["ALGORITHM"]
  acceptEquals
  expectWord

/-- `LOCK [=] word`. -/
def alterLockOption : Parse Unit := node .alterLockOption do
  expectKw ["LOCK"]
  acceptEquals
  expectWord

/-- The rest of an `ADD` item. -/
def alterAdd : Parse Unit := do
  expectKw ["ADD"]
  if (← isWord "PARTITION") then skipAlterItem
  else if (← startsConstraint) then tableConstraintDef
  else
    discard (accept "COLUMN")
    if (← check .lparen) then tableElementList
    else
      columnDefinition
      place

/-- The rest of a `DROP` item. -/
def alterDrop : Parse Unit := do
  expectKw ["DROP"]
  if (← isAny ["INDEX", "KEY", "CHECK", "CONSTRAINT"]) then skip; identifier
  else if (← isWord "PRIMARY") then expectKw ["PRIMARY", "KEY"]
  else if (← isWord "FOREIGN") then expectKw ["FOREIGN", "KEY"]; identifier
  else if (← isWord "PARTITION") then skipAlterItem
  else
    discard (accept "COLUMN")
    identifier
    unless (← accept "RESTRICT") do discard (accept "CASCADE")

/-- One item of an alter list. -/
def alterListItem : Parse Unit := do
  if (← isWord "ALGORITHM") then alterAlgorithmOption
  else if (← isWord "LOCK") then alterLockOption
  else node .alterListItem do
    if (← isWord "ADD") then alterAdd
    else if (← isWord "CHANGE") then
      skip
      discard (accept "COLUMN")
      identifier
      columnDefinition
      place
    else if (← isWord "MODIFY") then
      skip
      discard (accept "COLUMN")
      columnDefinition
      place
    else if (← isWord "DROP") then alterDrop
    else if (← isWord "RENAME") then
      skip
      if (← isAny ["INDEX", "KEY", "COLUMN"]) then
        skip
        identifier
        expectKw ["TO"]
        identifier
      else
        unless (← accept "TO") do discard (accept "AS")
        named .tableName
    else if (← isWord "ALTER") then
      skip
      if (← accept "INDEX") then
        identifier
        unless (← accept "VISIBLE") do expectKw ["INVISIBLE"]
      else
        discard (accept "COLUMN")
        identifier
        if (← isSeq ["SET", "DEFAULT"]) then
          discard (acceptSeq ["SET", "DEFAULT"])
          defaultValue
        else if (← isSeq ["DROP", "DEFAULT"]) then discard (acceptSeq ["DROP", "DEFAULT"])
        else if (← isWord "SET") then
          skip
          unless (← accept "VISIBLE") do expectKw ["INVISIBLE"]
        else failAt (.unexpectedToken · "SET or DROP")
    else if (← isWord "CONVERT") then
      expectKw ["CONVERT", "TO"]
      charsetKeyword
      charsetName .charsetName
      if (← accept "COLLATE") then charsetName .collationName
    else if (← startsTableOption) then tableOption
    else skipAlterItem

/-- The rest of `ALTER TABLE`. -/
def alterTable : Parse Unit := do
  expectKw ["ALTER"]
  unless (← accept "ONLINE") do discard (accept "OFFLINE")
  discard (accept "IGNORE")
  expectKw ["TABLE"]
  named .tableRef
  if (← atEnd) then return
  node .alterList (loop do
    if (← atEnd) || (← isSeq ["PARTITION", "BY"]) then return false
    alterListItem
    discard (accept? .comma)
    return true)
  if (← isSeq ["PARTITION", "BY"]) then partitioning

/-- The rest of `CREATE INDEX`, after the prefix words. -/
def createIndex : Parse Unit := do
  expectKw ["INDEX"]
  node .indexName identifier
  optionalIndexType
  node .createIndexTarget do
    expectKw ["ON"]
    named .tableRef
    keyList
  loop do
    if (← atEnd) then return false
    if (← isWord "ALGORITHM") then alterAlgorithmOption
    else if (← isWord "LOCK") then alterLockOption
    else if (← isAny ["USING", "TYPE"]) then indexType
    else if (← startsIndexOption) then indexOption
    else failAt .unsupportedClause
    return true

end DdlCatalog.Syntax.Parse
