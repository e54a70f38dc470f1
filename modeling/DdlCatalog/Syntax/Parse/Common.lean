import DdlCatalog.Syntax.Parse.Basic
/-!
Productions shared by the statements: names, qualified names, column lists, string literals,
account names, charset names, and the token runs kept as text (expressions, default values,
routine bodies). Expressions are never evaluated, so they are captured as balanced runs of
tokens rather than parsed by precedence.
-/

namespace DdlCatalog.Syntax.Parse

open DdlCatalog.Sql

/-- An identifier: a quoted name or an unreserved word. -/
def identifier : Parse Unit := node .identifier do
  unless (← cur).isIdentifier do failAt .expectedIdentifier
  skip

/-- A dotted name of one to three parts; after a dot any word is allowed, reserved or not. -/
def qualifiedIdentifier : Parse Unit := node .qualifiedIdentifier do
  identifier
  for _ in [0, 1] do
    if (← check .dot) then
      node .dotIdentifier do
        skip
        if (← check .ident) || (← check .quotedIdent) then node .identifier skip
        else failAt .expectedIdentifier

/-- A qualified name inside a node of kind `kind`. -/
def named (kind : NodeKind) : Parse Unit := node kind qualifiedIdentifier

/-- An optional `IF NOT EXISTS`. -/
def ifNotExists : Parse Unit := do
  if (← isSeq ["IF", "NOT", "EXISTS"]) then
    node .ifNotExists (discard (acceptSeq ["IF", "NOT", "EXISTS"]))

/-- A parenthesised list of identifiers. -/
def columnList : Parse Unit := node .columnList do
  expect .lparen
  commaList identifier
  expect .rparen

/-- Adjacent string literals, with an optional charset introducer such as `_utf8mb4`. -/
def textLiteral : Parse Unit := node .textLiteral do
  let t ← cur
  if t.kind == .ident && t.literal.head? == some 0x5F && (← peek).kind == .string then skip
  expect .string
  loop do accept? .string

/-- An account name: `CURRENT_USER [()]`, or a name with an optional `@` and host. -/
def userName : Parse Unit := node .userName do
  if (← accept "CURRENT_USER") then
    if (← check .lparen) && (← peek).kind == .rparen then skip; skip
  else
    unless (← check .string) || (← check .ident) || (← check .quotedIdent) do
      failAt .expectedIdentifier
    skip
    if (← accept? .at) then
      unless (← check .string) || (← check .ident) || (← check .quotedIdent) ||
          (← check .percent) do
        failAt .expectedIdentifier
      skip

/-- `DEFINER = user`. -/
def definerClause : Parse Unit := node .definerClause do
  expectKw ["DEFINER"]
  expect .eq
  userName

/-- A numeric literal. -/
def number : Parse Unit := do
  unless (← check .number) do failAt .expectedNumber
  skip

/-- An optional `=`. -/
def acceptEquals : Parse Unit := discard (accept? .eq)

/-- Any unquoted word. -/
def expectWord : Parse Unit := do
  unless (← check .ident) do failAt .expectedIdentifier
  skip

/-- Whether a charset keyword comes next: `CHARACTER SET`, `CHAR SET` or `CHARSET`. -/
def isCharsetKeyword : Parse Bool := do
  return (← isSeq ["CHARACTER", "SET"]) || (← isSeq ["CHAR", "SET"]) || (← isWord "CHARSET")

/-- A charset keyword. -/
def charsetKeyword : Parse Unit := do
  if (← acceptSeq ["CHARACTER", "SET"]) then return
  if (← acceptSeq ["CHAR", "SET"]) then return
  expectKw ["CHARSET"]

/-- A charset or collation name (a word, quoted name or string) inside a node of kind
`kind`. -/
def charsetName (kind : NodeKind) : Parse Unit := node kind do
  match (← cur).kind with
  | .ident | .quotedIdent | .string => skip
  | _ => failAt .expectedIdentifier

/-- A name given as a word, quoted name or string, inside an identifier node. -/
def textOrIdentifier : Parse Unit := charsetName .identifier

/-- Tokens up to a stop: at nesting depth zero the run ends before a token at which `stop`
holds, before an unmatched `)`, and at the end of the statement. -/
def exprUntil (stop : Parse Bool) : Parse Unit := node .expr do
  let depth ← loopFrom (fun (depth : Nat) => do
    if (← atEnd) then return (false, depth)
    if depth == 0 && (← stop) then return (false, depth)
    let k := (← cur).kind
    if k == .rparen && depth == 0 then return (false, depth)
    let depth' := if k == .lparen then depth + 1 else if k == .rparen then depth - 1 else depth
    skip
    return (true, depth')) 0
  if depth != 0 then fail .unbalancedParens

/-- A run with no stop word. -/
def expr : Parse Unit := exprUntil (pure false)

/-- `( expr )`; the expression node covers the inner text only. -/
def parenExpr : Parse Unit := do
  expect .lparen
  expr
  expect .rparen

/-- `( expr, ... )`, one expression node per item. -/
def exprList : Parse Unit := do
  expect .lparen
  commaList (exprUntil (check .comma))
  expect .rparen

/-- The value of a `DEFAULT` or `ON UPDATE` clause. -/
def defaultValue : Parse Unit := node .expr do
  let t ← cur
  match t.kind with
  | .plus | .minus => skip; number
  | .number => skip
  | .string => skip; loop do accept? .string
  | .lparen => skip; expr; expect .rparen
  | _ =>
    if t.isAnyWord ["CURRENT_TIMESTAMP", "NOW", "LOCALTIME", "LOCALTIMESTAMP"] then
      skip
      if (← accept? .lparen) then
        discard (accept? .number)
        expect .rparen
    else if t.kind == .ident || t.kind == .quotedIdent then
      skip
      if (← check .string) then skip
    else failAt (.unexpectedToken · "default value")

/-- A routine, trigger or event body. A compound body may hold statement delimiters, so
`BEGIN`/`CASE` ... `END` nesting is tracked and the body ends at a delimiter outside every
block; `END IF`, `END LOOP`, `END WHILE` and `END REPEAT` close no such block. -/
def body : Parse Unit := node .body do
  if (← atEnd) then fail .unexpectedEnd
  discard <| loopFrom (fun (depth : Nat) => do
    let t ← cur
    if t.kind == .eof || t.kind == .delimiter then return (false, depth)
    if depth == 0 && t.kind == .endStmt then return (false, depth)
    let after ← peek
    let depth' :=
      if t.isAnyWord ["BEGIN", "CASE"] then depth + 1
      else if t.isWord "END" && depth > 0 &&
          !after.isAnyWord ["IF", "LOOP", "WHILE", "REPEAT"] then depth - 1
      else depth
    skip
    return (true, depth')) 0

/-- A size such as `16M`, `1G` or `4096`. -/
def sizeNumber : Parse Unit := node .sizeNumber do
  unless (← check .number) || (← check .ident) do failAt .expectedNumber
  skip

end DdlCatalog.Syntax.Parse
