import DdlCatalog.Json.Value
/-!
JSON text. Strings escape the quote, the backslash and the control characters, and also the
line and paragraph separators; a writer for web pages escapes `<`, `>` and `&` too. The indented
form puts every member and item on a line of its own, two spaces deeper than its container;
empty lists and records stay on one line. Map entries are written in the order of their names'
bytes.
-/

namespace DdlCatalog.Json

/-- Lower-case hexadecimal digits of `n`, `width` of them. -/
def hexLower (width n : Nat) : String :=
  String.ofList ((List.range width).reverse.map fun i =>
    "0123456789abcdef".toList.getD ((n / Nat.pow 16 i) % 16) '0')

/-- How a character is written inside a JSON string. -/
def escapeChar (html : Bool) (c : Char) : String :=
  match c with
  | '"' => "\\\""
  | '\\' => "\\\\"
  | '\x08' => "\\b"
  | '\x0c' => "\\f"
  | '\n' => "\\n"
  | '\r' => "\\r"
  | '\t' => "\\t"
  | _ =>
    if c.toNat < 0x20 || (html && (c == '<' || c == '>' || c == '&')) then
      "\\u" ++ hexLower 4 c.toNat
    else if c.toNat == 0x2028 || c.toNat == 0x2029 then "\\u" ++ hexLower 4 c.toNat
    else c.toString

/-- A quoted JSON string. -/
def quoteString (html : Bool) (s : String) : String :=
  "\"" ++ String.join (s.toList.map (escapeChar html)) ++ "\""

/-- Whether the name `a` comes before `b` in byte order. -/
def bytesBefore (a b : String) : Bool :=
  decide (a.toUTF8.toList < b.toUTF8.toList)

/-- Written members in the order JSON writes the entries of a map. -/
def sortEntries (entries : List (String × String)) : List (String × String) :=
  (entries.toArray.qsort (fun x y => bytesBefore x.1 y.1)).toList

/-- Written members joined on one line. -/
def joinCompact (html : Bool) (members : List (String × String)) : String :=
  ",".intercalate (members.map fun (k, v) => quoteString html k ++ ":" ++ v)

mutual

/-- A document on one line. -/
def compact (html : Bool) : Json → String
  | .null => "null"
  | .nil => "null"
  | .bool b => if b then "true" else "false"
  | .num n => toString n
  | .str s => quoteString html s
  | .arr items => "[" ++ ",".intercalate (compactItems html items) ++ "]"
  | .obj members => "\x7b" ++ joinCompact html (compactMembers html members) ++ "\x7d"
  | .dict entries => "\x7b" ++ joinCompact html (sortEntries (compactMembers html entries)) ++ "\x7d"

/-- The items of a list, each on one line. -/
def compactItems (html : Bool) : List Json → List String
  | [] => []
  | x :: rest => compact html x :: compactItems html rest

/-- The members of a record, each value on one line. -/
def compactMembers (html : Bool) : List (String × Json) → List (String × String)
  | [] => []
  | (k, v) :: rest => (k, compact html v) :: compactMembers html rest

end

/-- `depth` levels of two-space indentation after a line break. -/
def newline (depth : Nat) : String := "\n" ++ "".pushn ' ' (2 * depth)

/-- Written items on lines of their own, `depth` levels deep, closed one level up. -/
def joinItems (depth : Nat) (items : List String) (opening closing : String) : String :=
  opening ++ ",".intercalate (items.map (newline depth ++ ·)) ++ newline (depth - 1) ++ closing

/-- Written members on lines of their own, `depth` levels deep, closed one level up. -/
def joinMembers (html : Bool) (depth : Nat) (members : List (String × String)) : String :=
  joinItems depth (members.map fun (k, v) => quoteString html k ++ ": " ++ v) "\x7b" "\x7d"

mutual

/-- A document indented for reading, its nested lines `depth` levels deep. -/
def pretty (html : Bool) (depth : Nat) : Json → String
  | .arr [] => "[]"
  | .arr items => joinItems (depth + 1) (prettyItems html (depth + 1) items) "[" "]"
  | .obj [] => "\x7b\x7d"
  | .obj members => joinMembers html (depth + 1) (prettyMembers html (depth + 1) members)
  | .dict [] => "\x7b\x7d"
  | .dict entries =>
    joinMembers html (depth + 1) (sortEntries (prettyMembers html (depth + 1) entries))
  | v => compact html v

/-- The items of a list, each indented `depth` levels. -/
def prettyItems (html : Bool) (depth : Nat) : List Json → List String
  | [] => []
  | x :: rest => pretty html depth x :: prettyItems html depth rest

/-- The members of a record, each value indented `depth` levels. -/
def prettyMembers (html : Bool) (depth : Nat) : List (String × Json) → List (String × String)
  | [] => []
  | (k, v) :: rest => (k, pretty html depth v) :: prettyMembers html depth rest

end

/-- A document as a web-safe JSON writer prints it for reading: indented by two spaces and
followed by a line break. -/
def document (v : Json) : String := pretty true 0 v ++ "\n"

end DdlCatalog.Json
