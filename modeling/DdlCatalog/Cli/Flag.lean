import DdlCatalog.Text.Quoted
import DdlCatalog.Config.Decode
/-!
Command-line flags: their declarations, how arguments set them, and how help lists them.

A flag has a long name and maybe a one-letter short name. A switch takes `true` or `false`,
and given alone it means `true`. A text flag takes the next argument or the text after `=`.
Arguments are read left to right. `--name`, `--name=value` and `-x` set flags. Letters after
one dash are a group of short flags, and the first one that takes a value takes the rest of
the group (or the next argument). A lone `--` ends the flags, and every other argument is
positional, wherever it stands.

The listing in help writes one line per flag, sorted by name. The descriptions all start in
one column: two spaces past the longest `-x, --name type` part.
-/

namespace DdlCatalog.Cli

/-- What a flag holds. -/
inductive FlagKind where
  | switch
  | text
deriving DecidableEq, Repr, Inhabited

/-- A flag's declaration. -/
structure FlagSpec where
  name : String
  short : Option Char := none
  kind : FlagKind
  usage : String
  /-- The value before any argument sets it: `true` or `false` for a switch. -/
  initial : String := ""
deriving Repr, Inhabited

namespace FlagSpec

/-- A switch. -/
def switch (name : String) (usage : String) (short : Option Char := none) (initial : Bool := false) : FlagSpec :=
  { name, short, kind := .switch, usage, initial := if initial then "true" else "false" }

/-- A text flag. -/
def text (name : String) (usage : String) (short : Option Char := none) : FlagSpec :=
  { name, short, kind := .text, usage }

/-- Whether the initial value is the zero of its kind. -/
def initialIsZero (f : FlagSpec) : Bool :=
  match f.kind with
  | .switch => f.initial == "false"
  | .text => f.initial.isEmpty

/-- How error messages name a flag: `-x, --name` or `--name`. -/
def display (f : FlagSpec) : String :=
  match f.short with
  | some c => "-" ++ c.toString ++ ", --" ++ f.name
  | none => "--" ++ f.name

end FlagSpec

/-- The flags that arguments set, by name, with their values as text, in the order they were
first set. -/
abbrev FlagValues := List (String × String)

/-- Records a flag's value: a later value replaces an earlier one in place. -/
def FlagValues.record (vs : FlagValues) (name value : String) : FlagValues :=
  if vs.any (·.1 == name) then vs.map fun p => if p.1 == name then (name, value) else p
  else vs ++ [(name, value)]

/-- The outcome of reading arguments: the flags set and the positional arguments. -/
structure Parsed where
  values : FlagValues := []
  positional : List String := []
  /-- How many positional arguments came before a `--`, if there was one. -/
  dashAt : Option Nat := none
deriving Repr, Inhabited

namespace Parsed

/-- Whether a flag was set by an argument. -/
def changed (p : Parsed) (name : String) : Bool := p.values.any (·.1 == name)

/-- A flag's value: the argument's, else the declaration's. -/
def value (p : Parsed) (specs : List FlagSpec) (name : String) : String :=
  match p.values.find? (·.1 == name) with
  | some (_, v) => v
  | none => ((specs.find? (·.name == name)).map (·.initial)).getD ""

/-- A switch's value. -/
def isOn (p : Parsed) (specs : List FlagSpec) (name : String) : Bool := p.value specs name == "true"

end Parsed

/-- Looks a flag up by long name. -/
def findLong (specs : List FlagSpec) (name : String) : Option FlagSpec := specs.find? (·.name == name)

/-- Looks a flag up by short name. -/
def findShort (specs : List FlagSpec) (c : Char) : Option FlagSpec := specs.find? (·.short == some c)

/-- Sets a flag from text; a switch must read as a boolean. -/
def setFlag (f : FlagSpec) (value : String) (p : Parsed) : Except String Parsed :=
  match f.kind with
  | .text => .ok { p with values := p.values.record f.name value }
  | .switch =>
    match Config.boolText? value with
    | some b => .ok { p with values := p.values.record f.name (if b then "true" else "false") }
    | none =>
      .error ("invalid argument " ++ Text.quote value ++ " for " ++ Text.quote f.display ++
        " flag: strconv.ParseBool: parsing " ++ Text.quote value ++ ": invalid syntax")

/-- A character as a quoted rune: `'x'`. -/
def quoteRune (c : Char) : String :=
  if c == '\'' then "'\\''"
  else if c == '\\' then "'\\\\'"
  else if c.toNat < 0x20 || c.toNat == 0x7F then
    let q := Text.quote c.toString
    "'" ++ String.ofList ((q.toList.drop 1).dropLast) ++ "'"
  else "'" ++ c.toString ++ "'"

/-- Reads `--name`, `--name=value` or `--name value`. -/
def parseLong (specs : List FlagSpec) (s : String) (rest : List String) (p : Parsed) :
    Except String (List String × Parsed) :=
  let body := String.ofList (s.toList.drop 2)
  if body.isEmpty || body.startsWith "-" || body.startsWith "=" then .error ("bad flag syntax: " ++ s)
  else
    let name := String.ofList (body.toList.takeWhile (· != '='))
    let inline := if body.toList.contains '=' then some (String.ofList ((body.toList.dropWhile (· != '=')).drop 1)) else none
    match findLong specs name with
    | none => .error ("unknown flag: --" ++ name)
    | some f =>
      match inline, f.kind, rest with
      | some v, _, _ => (rest, ·) <$> setFlag f v p
      | none, .switch, _ => (rest, ·) <$> setFlag f "true" p
      | none, .text, v :: more => (more, ·) <$> setFlag f v p
      | none, .text, [] => .error ("flag needs an argument: " ++ s)

/-- Reads a group of short flags, `-abc`, `-ovalue`, `-o=value` or `-o value`. Messages name
the part of the group not yet read. -/
def parseShorts (specs : List FlagSpec) (rest : List String) :
    Nat → List Char → List String → Parsed → Except String (List String × Parsed)
  | 0, _, out, p => .ok (out, p)
  | _, [], out, p => .ok (out, p)
  | fuel + 1, c :: cs, out, p =>
    let group := String.ofList (c :: cs)
    match findShort specs c with
    | none => .error ("unknown shorthand flag: " ++ quoteRune c ++ " in -" ++ group)
    | some f =>
      match cs with
      | '=' :: v :: more => (out, ·) <$> setFlag f (String.ofList (v :: more)) p
      | _ =>
        match f.kind, cs with
        | .switch, _ => do
          let p ← setFlag f "true" p
          parseShorts specs rest fuel cs out p
        | .text, _ :: _ => (out, ·) <$> setFlag f (String.ofList cs) p
        | .text, [] =>
          match rest with
          | v :: more => (more, ·) <$> setFlag f v p
          | [] => .error ("flag needs an argument: " ++ quoteRune c ++ " in -" ++ group)

/-- Reads all arguments against the flags in force. -/
def parseFlags (specs : List FlagSpec) : Nat → List String → Parsed → Except String Parsed
  | 0, _, p => .ok p
  | _, [], p => .ok p
  | fuel + 1, s :: rest, p =>
    if s.isEmpty || !s.startsWith "-" || s.length == 1 then
      parseFlags specs fuel rest { p with positional := p.positional ++ [s] }
    else if s == "--" then
      .ok { p with dashAt := some p.positional.length, positional := p.positional ++ rest }
    else if s.startsWith "--" then do
      let (rest, p) ← parseLong specs s rest p
      parseFlags specs fuel rest p
    else do
      let group := String.ofList (s.toList.drop 1)
      let (rest, p) ← parseShorts specs rest (group.length + 1) group.toList rest p
      parseFlags specs fuel rest p

/-- Reads arguments from the start. -/
def readArguments (specs : List FlagSpec) (args : List String) : Except String Parsed :=
  parseFlags specs (args.length + 1) args {}

/-! ### The help listing -/

/-- Inserts a flag into a list sorted by name. -/
def insertByName (f : FlagSpec) : List FlagSpec → List FlagSpec
  | [] => [f]
  | g :: rest => if f.name < g.name then f :: g :: rest else g :: insertByName f rest

/-- Flags sorted by name. -/
def sortByName (fs : List FlagSpec) : List FlagSpec := fs.foldr insertByName []

/-- The part of a flag's line before its description. -/
def FlagSpec.lead (f : FlagSpec) : String :=
  let names := match f.short with
    | some c => "  -" ++ c.toString ++ ", --" ++ f.name
    | none => "      --" ++ f.name
  match f.kind with
  | .text => names ++ " string"
  | .switch => names

/-- The description with the initial value when it is not zero. -/
def FlagSpec.described (f : FlagSpec) : String :=
  if f.initialIsZero then f.usage
  else match f.kind with
    | .text => f.usage ++ " (default " ++ Text.quote f.initial ++ ")"
    | .switch => f.usage ++ " (default " ++ f.initial ++ ")"

/-- The help listing of flags, one line each, sorted by name. -/
def flagUsages (fs : List FlagSpec) : String :=
  let sorted := sortByName fs
  let width := sorted.foldl (fun m f => max m (f.lead.length + 1)) 0
  String.join (sorted.map fun f =>
    f.lead ++ " " ++ String.ofList (List.replicate (width - f.lead.length) ' ') ++ " " ++ f.described ++ "\n")

end DdlCatalog.Cli
