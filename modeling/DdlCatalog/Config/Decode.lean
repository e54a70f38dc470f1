import DdlCatalog.Config.Layers
import DdlCatalog.Config.Yaml.Decode
import DdlCatalog.Catalog.Version
import DdlCatalog.Text.CaseFold
/-!
Weak decoding of configuration values into typed fields.

A field is found by its exact name, else by a name equal to it up to case. A null or missing
value leaves the field as it was. Conversions are lenient:

- a boolean field takes a boolean, a number (true when not zero), or text that spells a
  boolean (`1`, `t`, `true`, `0`, `f`, `false` in their usual cases, the empty text being
  false);
- a text field takes text, a boolean (`1` or `0`), an integer, or a double in its shortest
  positional form;
- a version field takes text, an integer or a double, all read as version text, or a group of
  `major`, `minor` and `release` integers.

Every other value is an error naming the field. The errors of all fields are collected in field
order.
-/

namespace DdlCatalog.Config

open DdlCatalog.Catalog DdlCatalog.Numeric

/-- Reads boolean text: `1`, `t`, `T`, `TRUE`, `true`, `True` and their negatives. -/
def boolText? (s : String) : Option Bool :=
  if s == "1" || s == "t" || s == "T" || s == "TRUE" || s == "true" || s == "True" then some true
  else if s == "0" || s == "f" || s == "F" || s == "FALSE" || s == "false" || s == "False" then some false
  else none

/-- The message for a value of a type the field cannot take. -/
def unconvertible (field expected : String) (v : Setting) : String :=
  "'" ++ field ++ "' expected type '" ++ expected ++ "', got unconvertible type '" ++ v.typeName ++ "'"

/-- Decodes a boolean field. -/
def decodeFlag (field : String) : Setting → Except String Bool
  | .bool b => .ok b
  | .int n => .ok (n != 0)
  | .uint n => .ok (n != 0)
  | .float x => .ok (!x.isZero)
  | .text s =>
    match boolText? s with
    | some b => .ok b
    | none =>
      if s == "" then .ok false
      else .error ("'" ++ field ++ "' cannot parse value as 'bool': strconv.ParseBool: invalid syntax")
  | v => .error (unconvertible field "bool" v)

/-- Decodes a text field. -/
def decodeWord (field : String) : Setting → Except String String
  | .text s => .ok s
  | .bool b => .ok (if b then "1" else "0")
  | .int n => .ok (toString n)
  | .uint n => .ok (toString n)
  | .float x => .ok x.positionalText
  | v => .error (unconvertible field "string" v)

/-- Wraps an integer to 64 signed bits. -/
def wrapSigned (n : Int) : Int := n.bmod (Nat.pow 2 64)

/-- Whether underscores in an integer literal only separate digits: none first, last or
doubled. -/
def separatedDigits (cs : List Char) : Bool :=
  let body := match cs with
    | '-' :: rest | '+' :: rest => rest
    | _ => cs
  body.head? != some '_' && body.getLast? != some '_' &&
    !(body.zip (body.drop 1)).any (fun p => p.1 == '_' && p.2 == '_')

/-- Decodes an integer field. -/
def decodeCount (field : String) : Setting → Except String Int
  | .int n => .ok n
  | .uint n => .ok (wrapSigned n)
  | .bool b => .ok (if b then 1 else 0)
  | .float x =>
    match x with
    | .finite negative m =>
      let whole : Int := m.floor
      .ok (wrapSigned (if negative then -whole else whole))
    | _ => .ok (-((Nat.pow 2 63 : Nat) : Int))
  | .text s =>
    let s := if s == "" then "0" else s
    let cs := s.toList
    let digits := if separatedDigits cs then cs.filter (· != '_') else cs
    match Yaml.signedValue? digits with
    | some n => .ok n
    | none =>
      let body := match digits with
        | '-' :: rest | '+' :: rest => rest
        | _ => digits
      let reason := if (Yaml.unsignedValue? body).isSome then "value out of range" else "invalid syntax"
      .error ("'" ++ field ++ "' cannot parse value as 'int': strconv.ParseInt: " ++ reason)
  | v => .error (unconvertible field "int" v)

/-- Whether two names are equal up to case. -/
def sameName (a b : String) : Bool := Text.fold a == Text.fold b

/-- The value given for a field: by exact name, else by a name equal up to case. -/
def fieldValue (entries : List (String × Setting)) (name : String) : Option Setting :=
  match Setting.find? name entries with
  | some v => some v
  | none => (entries.find? fun e => sameName e.1 name).map (·.2)

/-- Decodes one field into `current`, recording an error instead when it fails. -/
def decodeField {α : Type} (entries : List (String × Setting)) (name : String)
    (decode : String → Setting → Except String α) (current : α) : StateM (List String) α :=
  match fieldValue entries name with
  | none | some .null => pure current
  | some v =>
    match decode name v with
    | .ok x => pure x
    | .error e => do
      modify (· ++ [e])
      pure current

/-- Decodes a version given as a group of its parts. -/
def versionOfGroup (field : String) (entries : List (String × Setting)) (current : Version) :
    StateM (List String) Version := do
  let part (name : String) (now : Nat) : StateM (List String) Nat := do
    let n ← decodeField entries name (fun f v => decodeCount (field ++ "." ++ f) v) (now : Int)
    pure n.toNat
  let major ← part "Major" current.major
  let minor ← part "Minor" current.minor
  let release ← part "Release" current.release
  pure ⟨major, minor, release⟩

/-- Decodes a version field. -/
def decodeVersion (entries : List (String × Setting)) (name : String) (current : Version) :
    StateM (List String) Version :=
  let fail (e : String) : StateM (List String) Version := do
    modify (· ++ ["'" ++ name ++ "' " ++ e])
    pure current
  let fromText (s : String) : StateM (List String) Version :=
    match Version.parse s with
    | .ok v => pure v
    | .error e => fail e
  match fieldValue entries name with
  | none | some .null => pure current
  | some (.text s) => fromText s
  | some (.int n) => fromText (toString n)
  | some (.float x) => fromText x.positionalText
  | some (.group sub) => versionOfGroup name sub {}
  | some v => fail ("expected a map or struct, got '" ++ v.kindName ++ "'")

end DdlCatalog.Config
