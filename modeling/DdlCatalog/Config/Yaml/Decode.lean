import DdlCatalog.Config.Yaml.Node
import DdlCatalog.Config.Setting
import DdlCatalog.Json.Yaml
import DdlCatalog.Text.Quoted
/-!
Nodes to configuration values.

A plain scalar is read by the core schema. `null`, `~` and the empty scalar are null, and
`true` and `false` in three spellings are booleans. Integers take the base prefixes `0x`, `0o`
and `0b`, a leading `0` means octal, and underscores are dropped. Integers past the signed
range are unsigned up to 64 bits. A decimal with a point or an exponent is a double, and so are
`.inf` and `.nan`. A date stays text. Anything else, and every quoted or block scalar, is text.

A document's root must be a mapping or null. Its keys are read as text. Keys of nested mappings
are the generic text of their values, unless every key is text. A mapping that names a key
twice is an error, and it is left out of the result. Such errors are collected with their
lines and reported together.
-/

namespace DdlCatalog.Config.Yaml

open DdlCatalog.Numeric

/-- The value of digits in a base, `none` if one is not a digit of it or there are none. -/
def digitsValue? (base : Nat) (cs : List Char) : Option Nat :=
  if cs.isEmpty then none else
  cs.foldl (fun acc c => do
    let n ← acc
    let d ← hexValue? c
    if d < base then some (n * base + d) else none) (some 0)

/-- An unsigned integer literal with an optional base prefix: `0x`, `0o`, `0b`, or a leading
`0` for octal. -/
def unsignedValue? (cs : List Char) : Option Nat :=
  match cs with
  | '0' :: p :: rest =>
    if rest.isEmpty then
      if p.isDigit then digitsValue? 8 [p] else none
    else if p == 'x' || p == 'X' then digitsValue? 16 rest
    else if p == 'o' || p == 'O' then digitsValue? 8 rest
    else if p == 'b' || p == 'B' then digitsValue? 2 rest
    else digitsValue? 8 (p :: rest)
  | _ => digitsValue? 10 cs

/-- A signed 64-bit integer literal. -/
def signedValue? (cs : List Char) : Option Int :=
  let (negative, body) := match cs with
    | '-' :: rest => (true, rest)
    | '+' :: rest => (false, rest)
    | _ => (false, cs)
  match unsignedValue? body with
  | some n =>
    if negative then (if n ≤ Nat.pow 2 63 then some (-(n : Int)) else none)
    else if n < Nat.pow 2 63 then some n else none
  | none => none

/-- How a plain scalar reads: its core-schema tag and value. -/
def resolvePlain (text : String) : String × Setting :=
  let cs := text.toList
  if text == "" || text == "~" || text == "null" || text == "Null" || text == "NULL" then
    ("!!null", .null)
  else if text == "true" || text == "True" || text == "TRUE" then ("!!bool", .bool true)
  else if text == "false" || text == "False" || text == "FALSE" then ("!!bool", .bool false)
  else if text == ".nan" || text == ".NaN" || text == ".NAN" then ("!!float", .float .nan)
  else if text == ".inf" || text == ".Inf" || text == ".INF" || text == "+.inf" ||
      text == "+.Inf" || text == "+.INF" then ("!!float", .float (.infinite false))
  else if text == "-.inf" || text == "-.Inf" || text == "-.INF" then
    ("!!float", .float (.infinite true))
  else match cs with
    | '.' :: _ =>
      match Double.ofDecimal? text with
      | some x => ("!!float", .float x)
      | none => ("!!str", .text text)
    | c :: _ =>
      if c.isDigit || c == '+' || c == '-' then
        if Json.timestamp cs then ("!!timestamp", .text text) else
        let plain := cs.filter (· != '_')
        match signedValue? plain with
        | some n => ("!!int", .int n)
        | none =>
          match (if plain.head? == some '+' || plain.head? == some '-' then none
            else unsignedValue? plain) with
          | some n => if n < Nat.pow 2 64 then ("!!int", .uint n) else ("!!str", .text text)
          | none =>
            if Json.floatLiteral plain then
              match Double.ofDecimal? (String.ofList plain) with
              | some x => ("!!float", .float x)
              | none => ("!!str", .text text)
            else ("!!str", .text text)
      else ("!!str", .text text)
    | [] => ("!!null", .null)

/-- The short form of a core-schema tag. -/
def shortTag (tag : String) : String :=
  if tag.startsWith "tag:yaml.org,2002:" then "!!" ++ String.ofList (tag.toList.drop 18) else tag

/-- Whether a scalar is text whatever it says: quoted or block style without a specific tag, or
tagged `!!str`. -/
def textScalar (style : ScalarStyle) (tag : String) : Bool :=
  shortTag tag == "!!str" || ((tag == "" || tag == "!") && style != .plain)

/-- The value of a scalar, with its tag; a tag the text does not fit is a fatal error. -/
def scalarValue (text : String) (style : ScalarStyle) (tag : String) : Except String (String × Setting) :=
  if textScalar style tag then .ok ("!!str", .text text)
  else
    let wanted := shortTag tag
    if wanted == "" then .ok (resolvePlain text)
    else if wanted == "!!int" || wanted == "!!bool" || wanted == "!!float" || wanted == "!!null" ||
        wanted == "!!timestamp" then
      let (found, v) := resolvePlain text
      if found == wanted then .ok (found, v)
      else if wanted == "!!float" && found == "!!int" then
        match Double.ofDecimal? (String.ofList (text.toList.filter (· != '_'))) with
        | some x => .ok ("!!float", .float x)
        | none => .ok (found, v)
      else .error ("cannot decode " ++ found ++ " \x60" ++ text ++ "\x60 as a " ++ wanted)
    else .ok (tag, .text text)

/-- The tag a node reads with, for messages. -/
def nodeTag : Node → String
  | .scalar text style tag _ =>
    match scalarValue text style tag with
    | .ok (t, _) => if tag != "" then shortTag tag else t
    | .error _ => shortTag tag
  | .sequence _ tag _ => if tag != "" then shortTag tag else "!!seq"
  | .mapping _ tag _ => if tag != "" then shortTag tag else "!!map"

/-- The message for a node that cannot become a value of the named type. -/
def mismatch (n : Node) (target : String) : String :=
  let tag := nodeTag n
  let shown := match n with
    | .scalar text _ _ _ =>
      let cs := text.toList
      if 10 < cs.length then " \x60" ++ String.ofList (cs.take 7) ++ "...\x60" else " \x60" ++ text ++ "\x60"
    | _ => ""
  "line " ++ toString n.line ++ ": cannot unmarshal " ++ tag ++ shown ++ " into " ++ target

/-- The raw text of a key, for duplicate checks. -/
def keyText : Node → Option String
  | .scalar text _ _ _ => some text
  | _ => none

/-- Messages for keys named twice: each later one against each earlier one. -/
def duplicateKeys : List (Node × Node) → List String
  | [] => []
  | (k, _) :: rest =>
    let later := rest.filterMap fun (k2, _) =>
      match keyText k, keyText k2 with
      | some a, some b =>
        if a == b then
          some ("line " ++ toString k2.line ++ ": mapping key " ++ Text.quote b ++
            " already defined at line " ++ toString k.line)
        else none
      | _, _ => none
    later ++ duplicateKeys rest

/-- Decoding: collected messages, or a fatal error. -/
abbrev Decoding := StateT (List String) (Except String)

/-- Records a message. -/
def complain (message : String) : Decoding Unit := modify (· ++ [message])

/-- Whether every key of a mapping reads as text. -/
def textKeys (entries : List (Node × Node)) : Bool :=
  entries.all fun (k, _) => match k with
    | .scalar text style tag _ =>
      match scalarValue text style tag with
      | .ok (t, _) => t == "!!str"
      | .error _ => false
    | _ => false

mutual

/-- The value of a node; `none` when it could not be decoded. -/
def nodeValue : Node → Decoding (Option Setting)
  | .scalar text style tag _ => do
    match scalarValue text style tag with
    | .ok (_, v) => return some v
    | .error e => throw e
  | .sequence items _ _ => do
    let vs ← itemValues items
    return some (.list vs)
  | .mapping entries _ _ => do
    let dups := duplicateKeys entries
    if !dups.isEmpty then
      dups.forM complain
      return none
    let named := textKeys entries
    let es ← entryValues named entries
    return some (.group es)

/-- The values of list items; an item that cannot be decoded is null. -/
def itemValues : List Node → Decoding (List Setting)
  | [] => return []
  | n :: rest => do
    let v ← nodeValue n
    let vs ← itemValues rest
    return v.getD .null :: vs

/-- The entries of a nested mapping; keys are their text when all are text, else the generic
text of their values. -/
def entryValues (named : Bool) : List (Node × Node) → Decoding (List (String × Setting))
  | [] => return []
  | (k, v) :: rest => do
    let key ← if named then pure (match k with
        | .scalar text _ _ _ => text
        | _ => "")
      else do
        match k with
        | .scalar text style tag _ =>
          match scalarValue text style tag with
          | .ok (_, kv) => pure kv.display
          | .error e => throw e
        | _ => throw "invalid map key"
    let value ← nodeValue v
    let es ← entryValues named rest
    match value with
    | some x => return Setting.put key x es
    | none => return es

end

/-- The entries of a document's root mapping, keys read as text. -/
def rootEntries : List (Node × Node) → Decoding (List (String × Setting))
  | [] => return []
  | (k, v) :: rest => do
    let key ← match k with
      | .scalar text style tag _ =>
        match scalarValue text style tag with
        | .ok (_, .null) => pure (some "")
        | .ok _ => pure (some text)
        | .error e => throw e
      | other => do
        complain (mismatch other "string")
        pure none
    let value ← nodeValue v
    let es ← rootEntries rest
    match key, value with
    | some name, some x => return Setting.put name x es
    | _, _ => return es

/-- Decodes a document's root into the entries of a group. -/
def rootGroup (root : Node) : Decoding (List (String × Setting)) :=
  match root with
  | .mapping entries _ _ => do
    let dups := duplicateKeys entries
    if !dups.isEmpty then
      dups.forM complain
      return []
    rootEntries entries
  | .scalar text style tag _ =>
    match scalarValue text style tag with
    | .ok (_, .null) => return []
    | .ok _ => do
      complain (mismatch root "map[string]interface \x7b\x7d")
      return []
    | .error e => throw e
  | other => do
    complain (mismatch other "map[string]interface \x7b\x7d")
    return []

/-- Reads a YAML text into the entries of its root mapping, or the message of why it cannot. -/
def readGroup (text : String) : Except String (List (String × Setting)) :=
  match Node.read? text with
  | .error p => .error p.message
  | .ok none => .ok []
  | .ok (some root) =>
    match (rootGroup root).run [] with
    | .error e => .error ("yaml: " ++ e)
    | .ok (entries, []) => .ok entries
    | .ok (_, errors) => .error ("yaml: unmarshal errors:\n  " ++ "\n  ".intercalate errors)

end DdlCatalog.Config.Yaml
