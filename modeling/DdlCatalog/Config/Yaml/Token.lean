/-!
The tokens of a YAML character stream and the problems met while reading one.

A token carries the marks of its first character and of the character after it. Marks count
characters, lines and columns from zero. A problem has the mark of what could not be read and,
for some problems, the mark of the construct being read. Its message names the line of the
second if that is past the first line, else of the first. A scanner problem counts lines from
one. A parser problem reports the raw line index, so it names the line before the one it
points at.
-/

namespace DdlCatalog.Config.Yaml

/-- A position in the text, all counts from zero. -/
structure Mark where
  index : Nat := 0
  line : Nat := 0
  column : Nat := 0
deriving DecidableEq, Repr, Inhabited

/-- How a scalar was written. -/
inductive ScalarStyle where
  | plain
  | singleQuoted
  | doubleQuoted
  | literal
  | folded
deriving DecidableEq, Repr, Inhabited

/-- What a token is. -/
inductive TokenKind where
  | streamStart
  | streamEnd
  | directive
  | documentStart
  | documentEnd
  | blockSequenceStart
  | blockMappingStart
  | blockEnd
  | flowSequenceStart
  | flowSequenceEnd
  | flowMappingStart
  | flowMappingEnd
  | blockEntry
  | flowEntry
  | key
  | value
  | alias (name : String)
  | anchor (name : String)
  | tag (handle suffix : String)
  | scalar (text : String) (style : ScalarStyle)
deriving DecidableEq, Repr, Inhabited

/-- A token with the marks around it. -/
structure Token where
  kind : TokenKind
  start : Mark
  stop : Mark
deriving Repr, Inhabited

/-- Why a text is not a YAML document. -/
inductive Problem where
  /-- A problem met while reading tokens (`scanner`) or their structure, with the mark of the
  construct being read and the mark of the fault. -/
  | located (scanner : Bool) (context : Mark) (fault : Mark) (text : String)
  /-- A problem with no position. -/
  | plain (text : String)
deriving Repr, Inhabited

/-- The message of a problem: `yaml: line N: what`, the line left out when it would be zero. -/
def Problem.message : Problem → String
  | .plain text => "yaml: " ++ text
  | .located scanner context fault text =>
    let raw := if context.line != 0 then context.line else fault.line
    let line := if raw != 0 && scanner then raw + 1 else raw
    "yaml: " ++ (if line != 0 then "line " ++ toString line ++ ": " else "") ++ text

/-- Line breaks: carriage return, line feed, next line, line and paragraph separators. -/
def isBreak (c : Char) : Bool :=
  c == '\r' || c == '\n' || c == '\x85' || c == '\u2028' || c == '\u2029'

/-- A space or a tab. -/
def isBlank (c : Char) : Bool := c == ' ' || c == '\t'

/-- The character past the end of the text is read as NUL. -/
def isEnd (c : Char) : Bool := c == '\x00'

/-- A line break or the end of the text. -/
def isBreakOrEnd (c : Char) : Bool := isBreak c || isEnd c

/-- A blank, a line break or the end of the text. -/
def isBlankOrEnd (c : Char) : Bool := isBlank c || isBreakOrEnd c

/-- Characters of anchor and alias names: ASCII letters and digits, `_` and `-`. -/
def isNameChar (c : Char) : Bool :=
  c.isAlphanum || c == '_' || c == '-'

/-- The value of a hexadecimal digit. -/
def hexValue? (c : Char) : Option Nat :=
  if '0' ≤ c && c ≤ '9' then some (c.toNat - '0'.toNat)
  else if 'a' ≤ c && c ≤ 'f' then some (c.toNat - 'a'.toNat + 10)
  else if 'A' ≤ c && c ≤ 'F' then some (c.toNat - 'A'.toNat + 10)
  else none

end DdlCatalog.Config.Yaml
