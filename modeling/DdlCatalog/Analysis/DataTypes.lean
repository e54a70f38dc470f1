import DdlCatalog.Catalog.DataType
import DdlCatalog.Analysis.Values
/-!
Type descriptors from `DataType` trees. The type name is resolved against the built-in list by
name, synonym or alias. Problems (an unknown name, a number out of range, syntax the server
version does not have) are recorded as diagnostics and leave the attribute unset; reading a
type always gives a descriptor.
-/

namespace DdlCatalog.Analysis

open DdlCatalog.Sql
open DdlCatalog.Syntax
open DdlCatalog.Catalog

/-- The first server version with fractional seconds precision. -/
def fractionalSecondsVersion : Version := ⟨5, 6, 4⟩

/-- Adds a flag unless it is already there. -/
def addFlag (flags : List String) (flag : String) : List String :=
  if flags.contains flag then flags else flags ++ [flag]

/-- Applies the charset shorthands `ASCII`, `UNICODE`, `BYTE`, `BINARY` and
`CHARACTER SET name`. -/
def applyStringBinary (d : DataType) (n : Node) : DataType :=
  let words := n.words
  let d := if words.contains "BINARY" then { d with flags := addFlag d.flags "BINARY" } else d
  match n.child .charsetName with
  | some c => { d with charset := nameValue (some c) }
  | none =>
    if words.contains "ASCII" then { d with charset := "latin1" }
    else if words.contains "UNICODE" then { d with charset := "ucs2" }
    else if words.contains "BYTE" then { d with charset := "binary" }
    else d

namespace Analyze

/-- The single number of a length or precision clause as a count. -/
def typeNumber (n : Node) (object : String) : Analyze (Option Nat) := intValue n object

/-- What one child of a `DataType` tree adds to the descriptor being read and to the text of
its value list. `simple` is the built-in type the name resolved to. -/
def readTypeChild (simple : Option SimpleType) (opts : Options) (owner : String)
    (acc : DataType × String) (c : Node) : Analyze (DataType × String) := do
  let (d, valueList) := acc
  match c.kind? with
  | some .fieldLength =>
    match ← typeNumber c owner with
    | some v =>
      if (simple.map (·.numericPrecision)).getD false then return ({ d with precision := some v }, valueList)
      else return ({ d with length := some v }, valueList)
    | none => return (d, valueList)
  | some .precision =>
    let mut vals : List (Option Nat) := []
    for t in c.terminals.filter (·.kind == .number) do
      match Numeric.parseSmallCount? t.text with
      | some v => vals := vals ++ [some v]
      | none =>
        report .error .valueOutOfRange owner c.start s!"value {t.text} is out of range"
        vals := vals ++ [none]
    if let [p, s] := vals then return ({ d with precision := p, scale := s }, valueList)
    return (d, valueList)
  | some .typeDatetimePrecision =>
    if !opts.serverVersion.atLeast fractionalSecondsVersion then
      report .warning .unsupported owner c.start
        s!"fractional seconds precision requires server version {fractionalSecondsVersion.render}, ignored"
      return (d, valueList)
    match ← typeNumber c owner with
    | some v => return ({ d with precision := some v }, valueList)
    | none => return (d, valueList)
  | some .stringList =>
    return (d, "(" ++ ",".intercalate ((c.childrenOf .textLiteral).map Node.text) ++ ")")
  | some .fieldOptions => return ({ d with flags := c.words.foldl addFlag d.flags }, valueList)
  | some .stringBinary => return (applyStringBinary d c, valueList)
  | some .collationName => return ({ d with collation := nameValue (some c) }, valueList)
  | _ => return (d, valueList)

/-- The descriptor of a `DataType` tree. `owner` names the column or parameter in diagnostics
and `defaultCharset` is given to character types without a charset. -/
def extractDataType (n : Node) (owner defaultCharset : String) : Analyze DataType := do
  let name := " ".intercalate (n.words.filter (· != "COLLATE"))
  let (simple, synonym) := resolveType name
  let opts ← options
  let mut d : DataType := { name := name }
  match simple with
  | none => report .warning .unsupported owner n.start s!"unknown data type {name}"
  | some t =>
    if !opts.serverVersion.atLeast t.minVersion then
      report .warning .unsupported owner n.start
        s!"data type {t.name} requires server version {t.minVersion.render}"
    else d := { d with simple := some t, name := t.name }
  if let some a := synonym then
    d := { d with length := (match a.length with | some l => if l == 0 then d.length else some l
                                                  | none => d.length),
                  charset := a.charset, flags := d.flags ++ a.flags }
  let (d', valueList) ← n.children.foldlM (readTypeChild simple opts owner) (d, "")
  d := d'
  let parts := if valueList.isEmpty then d.flags else valueList :: d.flags
  d := { d with explicitParams := " ".intercalate parts }
  if d.charset.isEmpty && (simple.map (·.characterType)).getD false then
    d := { d with charset := defaultCharset }
  pure d

end Analyze

end DdlCatalog.Analysis
