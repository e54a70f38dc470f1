import DdlCatalog.Text.Blank
import DdlCatalog.Text.CaseMap
import DdlCatalog.Catalog.Version
/-!
Data types: the built-in type list, the alternative spellings that map onto it, and the type
descriptor of a column, parameter or function result.

A type name is looked up case-insensitively with inner blanks collapsed, first among the
aliases (`BOOL` is `TINYINT(1)`, `NCHAR` is `CHAR` in the national charset) and then among the
built-in names and their synonyms.
-/

namespace DdlCatalog.Catalog

/-- The classes of the built-in types. -/
inductive TypeGroup where
  | numeric | datetime | string | blob | enum | spatial | json | bit
deriving DecidableEq, Repr, Inhabited

/-- The name of a type class. -/
def TypeGroup.name : TypeGroup → String
  | .numeric => "numeric"
  | .datetime => "datetime"
  | .string => "string"
  | .blob => "blob"
  | .enum => "enum"
  | .spatial => "spatial"
  | .json => "json"
  | .bit => "bit"

/-- One built-in type. -/
structure SimpleType where
  name : String
  synonyms : List String := []
  group : TypeGroup
  /-- A single length clause means precision (`DECIMAL(5)`, `FLOAT(7)`). -/
  numericPrecision : Bool := false
  /-- The type takes fractional seconds precision. -/
  datetimePrecision : Bool := false
  /-- The type carries a charset and a collation. -/
  characterType : Bool := false
  /-- The first server version that knows the type. -/
  minVersion : Version := {}
deriving DecidableEq, Repr, Inhabited

/-- An alternative spelling of a built-in type, with fixed parameters. -/
structure TypeAlias where
  name : String
  target : String
  length : Option Nat := none
  charset : String := ""
  flags : List String := []
deriving DecidableEq, Repr, Inhabited

/-- The built-in types, in lookup order. -/
def builtinTypes : List SimpleType := [
  { name := "TINYINT", synonyms := ["INT1"], group := .numeric },
  { name := "SMALLINT", synonyms := ["INT2"], group := .numeric },
  { name := "MEDIUMINT", synonyms := ["INT3", "MIDDLEINT"], group := .numeric },
  { name := "INT", synonyms := ["INTEGER", "INT4"], group := .numeric },
  { name := "BIGINT", synonyms := ["INT8"], group := .numeric },
  { name := "DECIMAL", synonyms := ["DEC", "NUMERIC", "FIXED"], group := .numeric,
    numericPrecision := true },
  { name := "FLOAT", synonyms := ["FLOAT4"], group := .numeric, numericPrecision := true },
  { name := "DOUBLE", synonyms := ["DOUBLE PRECISION", "REAL", "FLOAT8"], group := .numeric,
    numericPrecision := true },
  { name := "BIT", group := .bit },
  { name := "DATE", group := .datetime },
  { name := "TIME", group := .datetime, datetimePrecision := true },
  { name := "DATETIME", group := .datetime, datetimePrecision := true },
  { name := "TIMESTAMP", group := .datetime, datetimePrecision := true },
  { name := "YEAR", group := .datetime },
  { name := "CHAR", synonyms := ["CHARACTER"], group := .string, characterType := true },
  { name := "VARCHAR", synonyms := ["CHARACTER VARYING", "CHAR VARYING", "VARCHARACTER"],
    group := .string, characterType := true },
  { name := "BINARY", group := .string },
  { name := "VARBINARY", group := .string },
  { name := "TINYTEXT", group := .string, characterType := true },
  { name := "TEXT", group := .string, characterType := true },
  { name := "MEDIUMTEXT", group := .string, characterType := true },
  { name := "LONGTEXT", group := .string, characterType := true },
  { name := "TINYBLOB", group := .blob },
  { name := "BLOB", group := .blob },
  { name := "MEDIUMBLOB", group := .blob },
  { name := "LONGBLOB", group := .blob },
  { name := "ENUM", group := .enum, characterType := true },
  { name := "SET", group := .enum, characterType := true },
  { name := "GEOMETRY", group := .spatial },
  { name := "POINT", group := .spatial },
  { name := "LINESTRING", group := .spatial },
  { name := "POLYGON", group := .spatial },
  { name := "MULTIPOINT", group := .spatial },
  { name := "MULTILINESTRING", group := .spatial },
  { name := "MULTIPOLYGON", group := .spatial },
  { name := "GEOMETRYCOLLECTION", synonyms := ["GEOMCOLLECTION"], group := .spatial },
  { name := "JSON", group := .json, minVersion := ⟨5, 7, 8⟩ }]

/-- The charset of the national character types. -/
def nationalCharset : String := "utf8"

/-- The alternative spellings, in lookup order. -/
def builtinAliases : List TypeAlias := [
  { name := "BOOL", target := "TINYINT", length := some 1 },
  { name := "BOOLEAN", target := "TINYINT", length := some 1 },
  { name := "SERIAL", target := "BIGINT", flags := ["UNSIGNED"] },
  { name := "NCHAR", target := "CHAR", charset := nationalCharset },
  { name := "NATIONAL CHAR", target := "CHAR", charset := nationalCharset },
  { name := "NATIONAL CHARACTER", target := "CHAR", charset := nationalCharset },
  { name := "NVARCHAR", target := "VARCHAR", charset := nationalCharset },
  { name := "NCHAR VARCHAR", target := "VARCHAR", charset := nationalCharset },
  { name := "NCHAR VARYING", target := "VARCHAR", charset := nationalCharset },
  { name := "NATIONAL VARCHAR", target := "VARCHAR", charset := nationalCharset },
  { name := "NATIONAL VARCHARACTER", target := "VARCHAR", charset := nationalCharset },
  { name := "NATIONAL CHAR VARYING", target := "VARCHAR", charset := nationalCharset },
  { name := "NATIONAL CHARACTER VARYING", target := "VARCHAR", charset := nationalCharset },
  { name := "LONG", target := "MEDIUMTEXT" },
  { name := "LONG VARCHAR", target := "MEDIUMTEXT" },
  { name := "LONG VARBINARY", target := "MEDIUMBLOB" }]

/-- The built-in type with this name or synonym; `key` is already normalised. -/
def lookupSimpleType (key : String) : Option SimpleType :=
  builtinTypes.find? fun t => t.name == key || t.synonyms.contains key

/-- The lookup key of a type name: upper case, words joined by single spaces. -/
def typeKey (name : String) : String := Text.upper (" ".intercalate (Text.fields name))

/-- Resolves a type name by alias, name or synonym. The alias is given when the name was one. -/
def resolveType (name : String) : Option SimpleType × Option TypeAlias :=
  let key := typeKey name
  match builtinAliases.find? (·.name == key) with
  | some a => (lookupSimpleType a.target, some a)
  | none => (lookupSimpleType key, none)

/-- The type of a column, parameter or function result. -/
structure DataType where
  /-- The built-in type the name resolved to. -/
  simple : Option SimpleType := none
  name : String := ""
  length : Option Nat := none
  precision : Option Nat := none
  scale : Option Nat := none
  charset : String := ""
  collation : String := ""
  /-- The `ENUM`/`SET` value list followed by the field options, in source order, e.g.
  `('a','b') BINARY` or `UNSIGNED ZEROFILL`. -/
  explicitParams : String := ""
  /-- The field options, one per entry. -/
  flags : List String := []
deriving DecidableEq, Repr, Inhabited

namespace DataType

/-- The parameter clause: precision and scale, precision alone, or the length. -/
def sizeClause (d : DataType) : String :=
  match d.precision, d.scale, d.length with
  | some p, some s, _ => s!"({p},{s})"
  | some p, none, _ => s!"({p})"
  | none, _, some l => s!"({l})"
  | none, _, none => ""

/-- The type as a table definition shows it, e.g. `DECIMAL(10,2) UNSIGNED` or
`ENUM('a','b')`. A value list already carries the options after it. -/
def render (d : DataType) : String :=
  let options :=
    if d.explicitParams.startsWith "(" then d.explicitParams
    else String.join (d.flags.map (" " ++ ·))
  let charset := if d.charset.isEmpty then "" else " CHARACTER SET " ++ d.charset
  let collation := if d.collation.isEmpty then "" else " COLLATE " ++ d.collation
  d.name ++ d.sizeClause ++ options ++ charset ++ collation

end DataType

end DdlCatalog.Catalog
