import DdlCatalog.Syntax.Parse.Alter
import DdlCatalog.Syntax.Parse.Routine
import DdlCatalog.Syntax.Parse.Objects
/-!
Scripts and statements. A script is a run of statements, statement delimiters and `DELIMITER`
lines. `CREATE ...`, `ALTER TABLE` and `USE` are parsed; any other statement keeps its raw
tokens as an `otherStatement`. A statement that fails records one parse error and becomes an
`otherStatement` whose children are the tokens from the failure on and whose span still runs
from its first token; parsing resumes with the next statement.
-/

namespace DdlCatalog.Syntax.Parse

open DdlCatalog.Sql

/-- The tokens up to the end of the statement. -/
def skipStatement : Parse Unit := loop do
  if (← atEnd) then return false
  skip
  return true

/-- Whether `ALTER [IGNORE | ONLINE | OFFLINE] TABLE` comes next. -/
def isAlterTable : Parse Bool := do
  return (← isSeq ["ALTER", "TABLE"]) || (← isSeq ["ALTER", "IGNORE", "TABLE"]) ||
    (← isSeq ["ALTER", "ONLINE", "TABLE"]) || (← isSeq ["ALTER", "OFFLINE", "TABLE"])

/-- `CREATE`, its prefix words and the created object; returns the statement's kind. -/
def create : Parse NodeKind := do
  expectKw ["CREATE"]
  loop do
    if (← acceptSeq ["OR", "REPLACE"]) then return true
    if (← isWord "ALGORITHM") && (← peek).kind == .eq then viewAlgorithm; return true
    if (← isWord "DEFINER") && (← peek).kind == .eq then definerClause; return true
    if (← isSeq ["SQL", "SECURITY"]) then viewSuid; return true
    if (← isAny ["TEMPORARY", "ONLINE", "OFFLINE", "UNIQUE", "FULLTEXT", "SPATIAL", "AGGREGATE",
        "UNDO"]) then skip; return true
    return false
  if (← isAny ["DATABASE", "SCHEMA"]) then createDatabase; return .createDatabase
  if (← isWord "TABLE") then createTable; return .createTable
  if (← isWord "INDEX") then createIndex; return .createIndex
  if (← isWord "PROCEDURE") then createProcedure; return .createProcedure
  if (← isWord "FUNCTION") then return (← createFunction)
  if (← isWord "TRIGGER") then createTrigger; return .createTrigger
  if (← isWord "VIEW") then createView; return .createView
  if (← isWord "SERVER") then createServer; return .createServer
  if (← isWord "TABLESPACE") then createTablespace; return .createTablespace
  if (← isSeq ["LOGFILE", "GROUP"]) then createLogfileGroup; return .createLogfileGroup
  if (← isWord "EVENT") then createEvent; return .createEvent
  skipStatement
  return .otherStatement

/-- The statement's productions, up to its end; returns its kind. -/
def statementBody : Parse NodeKind := do
  let kind ← do
    if (← isWord "CREATE") then create
    else if (← isAlterTable) then alterTable; pure .alterTable
    else if (← isWord "USE") then skip; identifier; pure .useStatement
    else skipStatement; pure .otherStatement
  unless (← atEnd) do failAt .trailingInput
  return kind

/-- One statement. On failure the statement keeps the tokens from the failing one to its
end. -/
def statement : Parse Unit := fun s =>
  let start := (s.ahead 0).pos
  let close (kind : NodeKind) (s' : ParseState) : ParseState :=
    let (span, text) := s'.spanFrom start
    { s' with children := s.children.push (.branch kind span text s'.children.toList) }
  match statementBody { s with children := #[] } with
  | .ok kind s' => .ok () (close kind s')
  | .error _ s' =>
    match skipStatement { s' with children := #[] } with
    | .ok _ s'' => .ok () (close .otherStatement s'')
    | .error e s'' => .error e s''

/-- A script: statements, delimiters and `DELIMITER` lines up to the end. -/
def script : Parse Unit := node .script <| loop do
  let t ← cur
  match t.kind with
  | .eof => return false
  | .endStmt => skip
  | .delimiter => node .delimiterStatement skip
  | _ => statement
  return true

end DdlCatalog.Syntax.Parse

namespace DdlCatalog.Syntax

open DdlCatalog.Sql

/-- Parses a script: its tree, rooted at a `script` node, and the errors of the statements
that failed, in order. -/
def parse (sql : String) (opts : LexOptions := {}) : Node × List ParseError :=
  let tokens := (tokenize sql opts).toArray
  let s0 := ParseState.init (Utf8.encode sql).toByteArray tokens
  let s := match Parse.script s0 with
    | .ok _ s => s
    | .error _ s => s
  (s.children[0]?.getD default, s.errors.toList)

/-- The problem of a script with no statement. -/
def noStatement : ParseError := ⟨⟨0, 0, 0⟩, .unexpectedEnd⟩

/-- Parses a single statement: the first statement of the script other than a `DELIMITER`
line, or the script's first parse error. -/
def parseStatement (sql : String) (opts : LexOptions := {}) : Except ParseError Node :=
  let (root, errs) := parse sql opts
  match errs with
  | e :: _ => .error e
  | [] =>
    match root.children.find? fun c => c.isStatement && !c.isKind .delimiterStatement with
    | some n => .ok n
    | none => .error noStatement

end DdlCatalog.Syntax
