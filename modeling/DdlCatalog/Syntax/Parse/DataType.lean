import DdlCatalog.Syntax.Parse.Common
/-!
Data types of columns, parameters and return values: a type name of one or two words, an
optional parameter list (a length, a precision and scale, a fractional seconds precision or a
list of strings), field options, a charset clause and a collation. The parser accepts any word
as a type name; the analyser looks it up.
-/

namespace DdlCatalog.Syntax.Parse

open DdlCatalog.Sql

/-- The words of a type name. -/
def typeName : Parse Unit := do
  unless (← check .ident) do failAt (.unexpectedToken · "data type")
  if (← isWord "DOUBLE") then skip; discard (accept "PRECISION")
  else if (← isAny ["CHAR", "CHARACTER"]) then skip; discard (accept "VARYING")
  else if (← isWord "NATIONAL") then
    skip
    unless (← isAny ["CHAR", "CHARACTER", "VARCHAR", "VARCHARACTER"]) do
      failAt (.unexpectedToken · "CHAR or VARCHAR")
    skip
    discard (accept "VARYING")
  else if (← isWord "NCHAR") then
    skip
    unless (← accept "VARCHAR") do discard (accept "VARYING")
  else if (← isWord "LONG") then
    skip
    unless (← accept "VARCHAR") do discard (accept "VARBINARY")
  else skip

/-- `( NUMBER )` inside a node of kind `kind`. -/
def fieldLength (kind : NodeKind) : Parse Unit := node kind do
  expect .lparen
  number
  expect .rparen

/-- `( NUMBER , NUMBER )`. -/
def precision : Parse Unit := node .precision do
  expect .lparen
  number
  expect .comma
  number
  expect .rparen

/-- `( 'a', 'b', ... )`, the values of an enumeration or set. -/
def stringList : Parse Unit := node .stringList do
  expect .lparen
  commaList textLiteral
  expect .rparen

/-- The charset shorthands: `ASCII`, `UNICODE`, `BYTE`, `BINARY` and a charset clause. -/
def stringBinary : Parse Unit := node .stringBinary do
  if (← isAny ["ASCII", "UNICODE"]) then skip; discard (accept "BINARY")
  else if (← isWord "BYTE") then skip
  else if (← isWord "BINARY") then
    skip
    if (← isCharsetKeyword) then charsetKeyword; charsetName .charsetName
    else if (← isAny ["ASCII", "UNICODE"]) then skip
  else
    charsetKeyword
    charsetName .charsetName
    discard (accept "BINARY")

/-- A data type. -/
def dataType : Parse Unit := node .dataType do
  typeName
  if (← check .lparen) then
    let s ← get
    if (s.ahead 1).kind == .string then stringList
    else if (s.ahead 1).kind == .number && (s.ahead 2).kind == .comma then precision
    else if ["TIME", "DATETIME", "TIMESTAMP"].contains (← firstWordSoFar) then
      fieldLength .typeDatetimePrecision
    else fieldLength .fieldLength
  if (← isAny ["SIGNED", "UNSIGNED", "ZEROFILL"]) then
    node .fieldOptions (loop do
      if (← isAny ["SIGNED", "UNSIGNED", "ZEROFILL"]) then skip; return true
      return false)
  if (← isAny ["ASCII", "UNICODE", "BYTE", "BINARY"]) || (← isCharsetKeyword) then stringBinary
  if (← isWord "COLLATE") then
    skip
    charsetName .collationName

end DdlCatalog.Syntax.Parse
