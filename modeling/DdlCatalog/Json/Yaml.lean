import DdlCatalog.Json.Value
import DdlCatalog.Json.Text
/-!
YAML text in block style, two spaces per level, with lists indented under their keys. Empty
lists and records are written `[]` and `{}`; a list that was never made is an empty list. Map
entries are ordered by name, runs of digits compared by their value.

A string is written plain when it would be read back as the same string: not empty, not a
number, a boolean (old spellings such as `yes` and `n` included), a null, a date or a sexagesimal
number, and free of the characters and spacings that would make it mean something else. A string
with a line break is written as a literal block. Otherwise it is quoted: in single quotes when
that is enough, else in double quotes with escapes, which also carry characters outside the
Basic Multilingual Plane.
-/

namespace DdlCatalog.Json

/-! ### Reading a plain string back -/

/-- Whether every character is a decimal digit (and there is one). -/
def allDigits (cs : List Char) : Bool := !cs.isEmpty && cs.all Char.isDigit

/-- The digits of `cs` in base `base`, allowing no sign. -/
def digitsIn (base : Nat) (cs : List Char) : Bool :=
  !cs.isEmpty && cs.all fun c =>
    let d := if c.isDigit then c.toNat - 48
      else if 'a' ≤ c && c ≤ 'f' then c.toNat - 87
      else if 'A' ≤ c && c ≤ 'F' then c.toNat - 55
      else 99
    d < base

/-- Whether an unsigned integer literal reads in base 0: `0x`, `0o` and `0b` prefixes, a
leading `0` for octal, else decimal. -/
def unsignedLiteral (cs : List Char) : Bool :=
  match cs with
  | '0' :: 'x' :: rest | '0' :: 'X' :: rest => digitsIn 16 rest
  | '0' :: 'o' :: rest | '0' :: 'O' :: rest => digitsIn 8 rest
  | '0' :: 'b' :: rest | '0' :: 'B' :: rest => digitsIn 2 rest
  | '0' :: rest => rest.isEmpty || digitsIn 8 rest
  | _ => digitsIn 10 cs

/-- Whether a signed integer literal reads in base 0. -/
def integerLiteral (cs : List Char) : Bool :=
  match cs with
  | '+' :: rest | '-' :: rest => unsignedLiteral rest
  | _ => unsignedLiteral cs

/-- Whether `cs` has the form `[-+]?(\.[0-9]+|[0-9]+(\.[0-9]*)?)([eE][-+]?[0-9]+)?`. -/
def floatLiteral (cs : List Char) : Bool :=
  let body := match cs with
    | '+' :: rest | '-' :: rest => rest
    | _ => cs
  let mant := body.takeWhile (fun c => c != 'e' && c != 'E')
  let expo := body.drop mant.length
  let mantOk := match mant with
    | '.' :: frac => allDigits frac
    | _ =>
      let whole := mant.takeWhile Char.isDigit
      let rest := mant.drop whole.length
      !whole.isEmpty && (rest.isEmpty || (rest.head? == some '.' && (rest.drop 1).all Char.isDigit))
  let expoOk := match expo with
    | [] => true
    | _ :: '+' :: ds | _ :: '-' :: ds => allDigits ds
    | _ :: ds => allDigits ds
  mantOk && expoOk

/-- Whether `cs` is a number the decimal reader takes, the special values included. -/
def decimalFloat (cs : List Char) : Bool :=
  let body := match cs with
    | '+' :: rest | '-' :: rest => rest
    | _ => cs
  let lower := String.ofList (body.map Char.toLower)
  lower == "inf" || lower == "infinity" || lower == "nan" || floatLiteral cs

/-- Whether `cs` has the form `[-+]?[0-9][0-9_]*(:[0-5]?[0-9])+(\.[0-9_]*)?`. -/
def sexagesimal (cs : List Char) : Bool :=
  let body := match cs with
    | '+' :: rest | '-' :: rest => rest
    | _ => cs
  match body with
  | c :: rest =>
    if !c.isDigit then false
    else
      let rest := rest.dropWhile fun c => c.isDigit || c == '_'
      let groups := (rest.takeWhile (· != '.'))
      let frac := rest.drop groups.length
      let parts := (String.ofList groups).splitOn ":"
      let groupOk (p : String) : Bool :=
        let ds := p.toList
        (ds.length == 1 && allDigits ds) ||
          (ds.length == 2 && allDigits ds && ds.head?.all (fun d => d ≤ '5'))
      match parts with
      | "" :: more => !more.isEmpty && more.all groupOk &&
          (frac.isEmpty || (frac.drop 1).all fun c => c.isDigit || c == '_')
      | _ => false
  | [] => false

/-- The days of a month in a year. -/
def daysIn (year month : Nat) : Nat :=
  if month == 2 then
    if year % 4 == 0 && (year % 100 != 0 || year % 400 == 0) then 29 else 28
  else if month == 4 || month == 6 || month == 9 || month == 11 then 30 else 31

/-- A number of one or two digits at the front of `cs`, and the rest. -/
def shortNumber (cs : List Char) : Option (Nat × List Char) :=
  let ds := (cs.takeWhile Char.isDigit).take 2
  if ds.isEmpty then none
  else some (ds.foldl (fun n d => 10 * n + (d.toNat - 48)) 0, cs.drop ds.length)

/-- Whether `cs` is a time of day with optional fraction and zone: `h:m:s`, `.digits`, then
`Z` or `±hh:mm`. -/
def timeOfDay (cs : List Char) : Bool :=
  match shortNumber cs with
  | some (h, ':' :: r1) =>
    match shortNumber r1 with
    | some (m, ':' :: r2) =>
      match shortNumber r2 with
      | some (s, r3) =>
        let r4 := match r3 with
          | '.' :: frac => frac.dropWhile Char.isDigit
          | _ => r3
        let zoneOk := match r4 with
          | [] => true
          | ['Z'] => true
          | sign :: h1 :: h2 :: ':' :: m1 :: m2 :: [] =>
            (sign == '+' || sign == '-') && [h1, h2, m1, m2].all Char.isDigit
          | _ => false
        h < 24 && m < 60 && s < 60 && zoneOk
      | none => false
    | _ => false
  | _ => false

/-- Whether `cs` is a date `yyyy-m-d`, optionally followed by a time after `T`, `t` or a
space. -/
def timestamp (cs : List Char) : Bool :=
  let year := cs.take 4
  if !(year.length == 4 && allDigits year && (cs.drop 4).head? == some '-') then false
  else
    let y := year.foldl (fun n d => 10 * n + (d.toNat - 48)) 0
    match shortNumber (cs.drop 5) with
    | some (m, '-' :: r) =>
      match shortNumber r with
      | some (d, rest) =>
        let dateOk := 1 ≤ m && m ≤ 12 && 1 ≤ d && d ≤ daysIn y m
        dateOk && match rest with
          | [] => true
          | sep :: time => (sep == 'T' || sep == 't' || sep == ' ') && timeOfDay time
      | none => false
    | _ => false

/-- The spellings read as booleans by older readers. -/
def oldBooleans : List String :=
  ["y", "Y", "yes", "Yes", "YES", "on", "On", "ON", "n", "N", "no", "No", "NO", "off", "Off", "OFF"]

/-- The spellings read as something other than a string. -/
def reservedWords : List String :=
  ["true", "True", "TRUE", "false", "False", "FALSE", "", "~", "null", "Null", "NULL",
   ".nan", ".NaN", ".NAN", ".inf", ".Inf", ".INF", "+.inf", "+.Inf", "+.INF",
   "-.inf", "-.Inf", "-.INF", "<<"]

/-- Whether a string written plain would be read back as the same string. -/
def readsAsString (s : String) : Bool :=
  if reservedWords.contains s || oldBooleans.contains s then false
  else
    let cs := s.toList
    match cs.head? with
    | some c =>
      if c == '.' then !decimalFloat cs
      else if c.isDigit || c == '+' || c == '-' then
        let plain := cs.filter (· != '_')
        !(timestamp cs || integerLiteral plain || floatLiteral plain || sexagesimal cs)
      else true
    | none => false

/-! ### Scalar styles -/

/-- How a scalar is written. -/
inductive ScalarStyle where
  | plain
  | singleQuoted
  | doubleQuoted
  | literal
deriving DecidableEq, Repr

/-- Characters written as they are. -/
def yamlPrintable (c : Char) : Bool :=
  let n := c.toNat
  n == 0x0A || (0x20 ≤ n && n ≤ 0x7E) || (0xA0 ≤ n && n ≤ 0xD7FF) ||
    (0xE000 ≤ n && n ≤ 0xFFFD && n != 0xFEFF)

/-- Line break characters. -/
def isBreak (c : Char) : Bool :=
  c == '\r' || c == '\n' || c.toNat == 0x85 || c.toNat == 0x2028 || c.toNat == 0x2029

/-- What the characters of a scalar allow. -/
structure ScalarFacts where
  multiline : Bool
  blockPlain : Bool
  singleQuoted : Bool
  block : Bool
deriving Repr

/-- The indicator flags and spacing facts gathered over a scalar. -/
structure ScanState where
  blockIndicators : Bool := false
  lineBreaks : Bool := false
  special : Bool := false
  tabs : Bool := false
  leadingSpace : Bool := false
  leadingBreak : Bool := false
  trailingSpace : Bool := false
  trailingBreak : Bool := false
  breakSpace : Bool := false
  spaceBreak : Bool := false
  previousSpace : Bool := false
  previousBreak : Bool := false
  precededByBlank : Bool := true

/-- Scans the characters of a scalar from position `i`. -/
def scanScalar (all : List Char) : List Char → Nat → ScanState → ScanState
  | [], _, st => st
  | c :: rest, i, st =>
    let followedByBlank := match rest with
      | [] => true
      | d :: _ => d == ' ' || d == '\t'
    let first := i == 0
    let indicator :=
      if first then
        if "#,[]\x7b\x7d&*!|>'\"%@`".toList.contains c then true
        else if c == '?' || c == ':' then followedByBlank
        else if c == '-' then followedByBlank
        else false
      else if c == ':' then followedByBlank
      else if c == '#' then st.precededByBlank
      else false
    let st := { st with blockIndicators := st.blockIndicators || indicator }
    let st := if c == '\t' then { st with tabs := true }
      else if !yamlPrintable c then { st with special := true } else st
    let last := rest.isEmpty
    let st :=
      if c == ' ' then
        { st with leadingSpace := st.leadingSpace || first,
                  trailingSpace := st.trailingSpace || last,
                  breakSpace := st.breakSpace || st.previousBreak,
                  previousSpace := true, previousBreak := false }
      else if isBreak c then
        { st with lineBreaks := true,
                  leadingBreak := st.leadingBreak || first,
                  trailingBreak := st.trailingBreak || last,
                  spaceBreak := st.spaceBreak || st.previousSpace,
                  previousSpace := false, previousBreak := true }
      else { st with previousSpace := false, previousBreak := false }
    let st := { st with precededByBlank := c == ' ' || c == '\t' || isBreak c }
    scanScalar all rest (i + 1) st

/-- What the characters of a scalar allow. -/
def analyzeScalar (s : String) : ScalarFacts :=
  let cs := s.toList
  if cs.isEmpty then ⟨false, true, true, false⟩
  else
    let dashes := cs.take 3 == ['-', '-', '-'] || cs.take 3 == ['.', '.', '.']
    let st := scanScalar cs cs 0 {}
    let indicators := dashes || st.blockIndicators
    let edges := st.leadingSpace || st.leadingBreak || st.trailingSpace || st.trailingBreak
    let noPlain := edges || st.breakSpace || st.spaceBreak || st.tabs || st.special ||
      st.lineBreaks || indicators
    let noSingle := st.breakSpace || st.spaceBreak || st.tabs || st.special
    let noBlock := st.trailingSpace || st.spaceBreak || st.special
    ⟨st.lineBreaks, !noPlain, !noSingle, !noBlock⟩

/-- The style a string is written in; `key` for the name of a record member. -/
def chooseStyle (s : String) (key : Bool) : ScalarStyle :=
  let facts := analyzeScalar s
  let wanted : ScalarStyle :=
    if s.contains '\n' then .literal
    else if readsAsString s then .plain
    else .doubleQuoted
  let wanted := if key && facts.multiline then .doubleQuoted else wanted
  match wanted with
  | .plain =>
    let wanted := if !facts.blockPlain || (s.isEmpty && key) then ScalarStyle.singleQuoted else .plain
    if wanted == .singleQuoted && !facts.singleQuoted then .doubleQuoted else wanted
  | .literal => if !facts.block || key then .doubleQuoted else .literal
  | other => other

/-- Upper-case hexadecimal digits of `n`, `width` of them. -/
def hexUpper (width n : Nat) : String :=
  String.ofList ((List.range width).reverse.map fun i =>
    "0123456789ABCDEF".toList.getD ((n / Nat.pow 16 i) % 16) '0')

/-- How a character is written inside double quotes. -/
def yamlEscape (c : Char) : String :=
  let n := c.toNat
  if yamlPrintable c && !isBreak c && n != 0xFEFF && c != '"' && c != '\\' then c.toString
  else match n with
    | 0x00 => "\\0"
    | 0x07 => "\\a"
    | 0x08 => "\\b"
    | 0x09 => "\\t"
    | 0x0A => "\\n"
    | 0x0B => "\\v"
    | 0x0C => "\\f"
    | 0x0D => "\\r"
    | 0x1B => "\\e"
    | 0x22 => "\\\""
    | 0x5C => "\\\\"
    | 0x85 => "\\N"
    | 0xA0 => "\\_"
    | 0x2028 => "\\L"
    | 0x2029 => "\\P"
    | _ =>
      if n ≤ 0xFF then "\\x" ++ hexUpper 2 n
      else if n ≤ 0xFFFF then "\\u" ++ hexUpper 4 n
      else "\\U" ++ hexUpper 8 n

/-- A string in single quotes. -/
def singleQuote (s : String) : String :=
  "'" ++ String.join (s.toList.map fun c => if c == '\'' then "''" else c.toString) ++ "'"

/-- A string in double quotes. -/
def doubleQuote (s : String) : String :=
  "\"" ++ String.join (s.toList.map yamlEscape) ++ "\""

/-- The header of a literal block: an indentation hint when the text starts with a space or a
break, then `-` when there is no final break and `+` when there are several. -/
def literalHeader (s : String) : String :=
  let cs := s.toList
  let hint := match cs.head? with
    | some c => if c == ' ' || isBreak c then "2" else ""
    | none => ""
  let chomp := match cs.reverse with
    | [] => "-"
    | c :: before =>
      if !isBreak c then "-"
      else match before with
        | [] => "+"
        | d :: _ => if isBreak d then "+" else ""
  "|" ++ hint ++ chomp

/-- The lines of a literal block, each indented to column `indent`; empty lines stay empty. -/
def literalBody (s : String) (indent : Nat) : String :=
  let lines := s.splitOn "\n"
  -- the text after the last break is a line of its own only when it is not empty
  let lines := match lines.reverse with
    | "" :: before => before.reverse
    | _ => lines
  String.join (lines.map fun l => "\n" ++ (if l.isEmpty then "" else "".pushn ' ' indent ++ l))

/-- A scalar string; a literal block puts its lines at column `indent`. -/
def scalarText (s : String) (key : Bool) (indent : Nat) : String :=
  match chooseStyle s key with
  | .plain => s
  | .singleQuoted => singleQuote s
  | .doubleQuoted => doubleQuote s
  | .literal => literalHeader s ++ literalBody s indent

/-! ### Ordering map entries -/

/-- Whether `a` comes before `b` in the natural order of map names: runs of digits compare by
value, and letters come after other characters at a difference. -/
def naturalBefore (a b : List Char) : Bool :=
  go a b false (a.length + b.length + 1)
where
  /-- Compares the remaining characters; `digits` tells whether the common part so far ended in
  a digit. -/
  go : List Char → List Char → Bool → Nat → Bool
  | _, _, _, 0 => false
  | [], [], _, _ => false
  | [], _ :: _, _, _ => true
  | _ :: _, [], _, _ => false
  | x :: xs, y :: ys, digits, fuel + 1 =>
    if x == y then go xs ys x.isDigit fuel
    else
      let xl := x.isAlpha
      let yl := y.isAlpha
      if xl && yl then x < y
      else if xl || yl then (if digits then xl else yl)
      else
        let xd := (x :: xs).takeWhile Char.isDigit
        let yd := (y :: ys).takeWhile Char.isDigit
        let value (ds : List Char) := ds.foldl (fun n d => 10 * n + (d.toNat - 48)) 0
        if value xd != value yd then value xd < value yd
        else if xd.length != yd.length then xd.length < yd.length
        else x < y

/-- Written entries in the order YAML writes the entries of a map. -/
def naturalSort (entries : List (String × String)) : List (String × String) :=
  (entries.toArray.qsort (fun x y => naturalBefore x.1.toList y.1.toList)).toList

/-! ### Block layout -/

/-- The spaces of column `n`. -/
def pad (n : Nat) : String := "".pushn ' ' n

/-- Whether a document is written as a block of its own lines. -/
def isBlock : Json → Bool
  | .arr (_ :: _) | .obj (_ :: _) | .dict (_ :: _) => true
  | _ => false

/-- A value written on the line where it starts; nested blocks and literal lines go to
column `indent`. -/
def scalarYaml (indent : Nat) : Json → String
  | .null => "null"
  | .nil => "[]"
  | .bool b => if b then "true" else "false"
  | .num n => toString n
  | .str s => scalarText s false indent
  | .arr _ => "[]"
  | .obj _ => "\x7b\x7d"
  | .dict _ => "\x7b\x7d"

/-- Written members as block lines at `column`, the first one's padding left to the caller. -/
def joinBlockMembers (column : Nat) (members : List (String × String)) : String :=
  String.intercalate ("\n" ++ pad column)
    (members.map fun (k, v) => scalarText k true column ++ ":" ++ v)

mutual

/-- A document as a block starting at `column` on the current line. -/
def block (column : Nat) : Json → String
  | .arr items => String.intercalate ("\n" ++ pad column) (blockItems column items)
  | .obj members => joinBlockMembers column (blockMembers column members)
  | .dict entries => joinBlockMembers column (naturalSort (blockMembers column entries))
  | v => scalarYaml (column + 2) v

/-- The items of a list at `column`, each after its dash. -/
def blockItems (column : Nat) : List Json → List String
  | [] => []
  | v :: rest =>
    let text := if isBlock v then "- " ++ block (column + 2) v else "- " ++ scalarYaml (column + 2) v
    text :: blockItems column rest

/-- The members of a record at `column`, each value as written after its colon. -/
def blockMembers (column : Nat) : List (String × Json) → List (String × String)
  | [] => []
  | (k, v) :: rest =>
    let text :=
      if isBlock v then
        "\n" ++ pad (column + 2) ++ block (column + 2) v
      else " " ++ scalarYaml (column + 2) v
    (k, text) :: blockMembers column rest

end

/-- A document as YAML, followed by a line break. -/
def yamlDocument (v : Json) : String := block 0 v ++ "\n"

end DdlCatalog.Json
