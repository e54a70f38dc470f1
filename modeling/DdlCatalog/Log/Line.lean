import DdlCatalog.Log.Record
import DdlCatalog.Text.Quoted
/-!
Log records as lines of `key=value` pairs: the time, the level, the message and then the
record's values in order. A value is quoted when it is empty or holds a space, an `=`, a quote,
a control character, or a character that is not printable or is a space of some other kind;
the others are written as they are.
-/

namespace DdlCatalog.Log

open DdlCatalog.Text

/-- Whether a character forces quoting. -/
def forcesQuotes (c : Char) : Bool :=
  let n := c.toNat
  if n < 0x80 then c == ' ' || c == '=' || c == '"' || n < 0x20
  else isSpaceLike c || !isPrintable c
where
  /-- The space characters beyond ASCII. -/
  isSpaceLike (c : Char) : Bool :=
    let n := c.toNat
    n == 0x85 || n == 0xA0 || n == 0x1680 || (0x2000 ≤ n && n ≤ 0x200A) || n == 0x2028 ||
      n == 0x2029 || n == 0x202F || n == 0x205F || n == 0x3000

/-- A text as a log line writes it. -/
def textValue (s : String) : String :=
  if s.isEmpty || s.toList.any forcesQuotes then quote s else s

/-- A value as a log line writes it. -/
def Value.render : Value → String
  | .text s => textValue s
  | .count n => toString n
  | .flag b => if b then "true" else "false"

/-- A record as one line, without the line break, stamped with `time`. -/
def Record.line (r : Record) (time : String) : String :=
  " ".intercalate (["time=" ++ time, "level=" ++ r.level.name, "msg=" ++ textValue r.message] ++
    r.attrs.map fun (k, v) => textValue k ++ "=" ++ v.render)

/-- The lines of the records at or above `threshold`, each followed by a line break. -/
def render (threshold : Level) (time : String) (records : List Record) : String :=
  String.join ((records.filter (·.level.rank ≥ threshold.rank)).map (·.line time ++ "\n"))

end DdlCatalog.Log
