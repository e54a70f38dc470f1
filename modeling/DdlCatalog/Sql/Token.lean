import DdlCatalog.Text.Utf8
import DdlCatalog.Text.Quoted
import DdlCatalog.Text.CaseMap
/-!
Tokens of a DDL script. Words are not split into one kind per keyword: every unquoted word is an
`ident` token and keywords are matched by their spelling, without regard to ASCII case. A few
hundred reserved words cannot name an object unless they are quoted.
-/

namespace DdlCatalog.Sql

/-- The kinds of token. -/
inductive TokenKind where
  | eof | illegal
  | ident | quotedIdent | number | string
  | plus | minus | star | slash | percent | eq | ne | lt | gt | le | ge
  | dot | comma | lparen | rparen | at | colon | semicolon | operator
  | endStmt | delimiter
deriving DecidableEq, Repr, Inhabited

/-- The name of a token kind: the symbol of a punctuation token, a word otherwise. -/
def TokenKind.name : TokenKind → String
  | .eof => "EOF" | .illegal => "ILLEGAL"
  | .ident => "IDENT" | .quotedIdent => "QUOTED_IDENT" | .number => "NUMBER" | .string => "STRING"
  | .plus => "+" | .minus => "-" | .star => "*" | .slash => "/" | .percent => "%"
  | .eq => "=" | .ne => "!=" | .lt => "<" | .gt => ">" | .le => "<=" | .ge => ">="
  | .dot => "." | .comma => "," | .lparen => "(" | .rparen => ")" | .at => "@"
  | .colon => ":" | .semicolon => ";" | .operator => "OPERATOR"
  | .endStmt => "END_STMT" | .delimiter => "DELIMITER"

/-- A place in a script: 1-based line, 1-based byte column and 0-based byte offset. A newline
byte stands at column 0 of the line it opens. -/
structure Position where
  line : Nat
  column : Nat
  offset : Nat
deriving DecidableEq, Repr, Inhabited

/-- A token: its kind, its value (unquoted and unescaped for quoted tokens), where it starts and
the offset just past its raw text. -/
structure Token where
  kind : TokenKind
  literal : Bytes
  pos : Position
  endOffset : Nat
deriving DecidableEq, Repr, Inhabited

/-- The reserved words, in uppercase and in increasing order. -/
def reservedWords : List String := [
  "ACCESSIBLE", "ADD", "ALL", "ALTER", "ANALYZE", "AND", "AS", "ASC", "ASENSITIVE", "BEFORE",
  "BETWEEN", "BIGINT", "BINARY", "BLOB", "BOTH", "BY", "CALL", "CASCADE", "CASE", "CHANGE",
  "CHAR", "CHARACTER", "CHECK", "COLLATE", "COLUMN", "CONDITION", "CONSTRAINT", "CONTINUE",
  "CONVERT", "CREATE", "CROSS", "CURRENT_DATE", "CURRENT_TIME", "CURRENT_TIMESTAMP",
  "CURRENT_USER", "CURSOR", "DATABASE", "DATABASES", "DECIMAL", "DECLARE", "DEFAULT", "DELAYED",
  "DELETE", "DESC", "DESCRIBE", "DETERMINISTIC", "DISTINCT", "DIV", "DOUBLE", "DROP", "DUAL",
  "EACH", "ELSE", "ELSEIF", "ENCLOSED", "ESCAPED", "EXISTS", "EXIT", "EXPLAIN", "FALSE", "FETCH",
  "FLOAT", "FOR", "FORCE", "FOREIGN", "FROM", "FULLTEXT", "GENERATED", "GRANT", "GROUP",
  "HAVING", "IF", "IGNORE", "IN", "INDEX", "INNER", "INOUT", "INSERT", "INT", "INTEGER",
  "INTERVAL", "INTO", "IS", "ITERATE", "JOIN", "KEY", "KEYS", "KILL", "LEADING", "LEAVE", "LEFT",
  "LIKE", "LIMIT", "LINEAR", "LINES", "LOAD", "LOCK", "LONG", "LONGBLOB", "LONGTEXT", "LOOP",
  "MATCH", "MAXVALUE", "MEDIUMBLOB", "MEDIUMINT", "MEDIUMTEXT", "MOD", "MODIFIES", "NATURAL",
  "NOT", "NULL", "NUMERIC", "ON", "OPTIMIZE", "OPTION", "OPTIONALLY", "OR", "ORDER", "OUT",
  "OUTER", "PARTITION", "PRECISION", "PRIMARY", "PROCEDURE", "PURGE", "RANGE", "READ", "READS",
  "REAL", "REFERENCES", "REGEXP", "RELEASE", "RENAME", "REPEAT", "REPLACE", "REQUIRE",
  "RESTRICT", "RETURN", "REVOKE", "RIGHT", "RLIKE", "SCHEMA", "SCHEMAS", "SELECT", "SENSITIVE",
  "SEPARATOR", "SET", "SHOW", "SIGNAL", "SMALLINT", "SPATIAL", "SPECIFIC", "SQL", "SQLEXCEPTION",
  "SQLSTATE", "SQLWARNING", "STARTING", "STORED", "STRAIGHT_JOIN", "TABLE", "TERMINATED", "THEN",
  "TINYBLOB", "TINYINT", "TINYTEXT", "TO", "TRAILING", "TRIGGER", "TRUE", "UNDO", "UNION",
  "UNIQUE", "UNLOCK", "UNSIGNED", "UPDATE", "USAGE", "USE", "USING", "UTC_DATE", "UTC_TIME",
  "UTC_TIMESTAMP", "VALUES", "VARBINARY", "VARCHAR", "VARCHARACTER", "VARYING", "VIRTUAL",
  "WHEN", "WHERE", "WHILE", "WITH", "WRITE", "XOR", "ZEROFILL"]

/-- Whether a word is reserved, comparing its uppercase form. -/
def isReserved (word : String) : Bool := reservedWords.contains (Text.upper word)

/-- ASCII letters in uppercase; other bytes unchanged. -/
def asciiUpperByte (b : UInt8) : UInt8 := if 0x61 ≤ b && b ≤ 0x7A then b - 0x20 else b

/-- Equality of byte strings without regard to ASCII case. -/
def equalFoldAscii : Bytes → Bytes → Bool
  | [], [] => true
  | a :: as, b :: bs => asciiUpperByte a == asciiUpperByte b && equalFoldAscii as bs
  | _, _ => false

namespace Token

/-- The value of the token as text; a byte that begins no UTF-8 sequence reads as U+FFFD. -/
def text (t : Token) : String := Utf8.decode t.literal

/-- Whether the token is the unquoted word `kw`, without regard to ASCII case. -/
def isWord (t : Token) (kw : String) : Bool :=
  t.kind == .ident && equalFoldAscii t.literal (Utf8.encode kw)

/-- Whether the token is one of the unquoted words `kws`. -/
def isAnyWord (t : Token) (kws : List String) : Bool := kws.any t.isWord

/-- Whether the token can name an object: a quoted identifier, or a word that is not
reserved. -/
def isIdentifier (t : Token) : Bool :=
  match t.kind with
  | .quotedIdent => true
  | .ident => !isReserved t.text
  | _ => false

/-- The token as its kind followed by its quoted value, as in `IDENT("t")`. -/
def display (t : Token) : String := t.kind.name ++ "(" ++ Text.quoteBytes t.literal ++ ")"

end Token

end DdlCatalog.Sql
