import DdlCatalog.Numeric.Shortest
/-!
Configuration values: what a YAML file, the environment and command-line flags provide before
they are decoded into settings. A group maps names to values; its entries have no meaningful
order, and a group never holds a name twice.

`Setting.display` is the generic text of a value. Lists are `[a b]`. Groups are
`map[k:v ...]` with the names sorted. A missing value is `<nil>`. Numbers use the general form
of `Double.generalText`.
-/

namespace DdlCatalog.Config

open DdlCatalog.Numeric

/-- A configuration value. Integers that fit 64 signed bits are `int`; larger ones up to
`2 ^ 64 - 1` are `uint`. -/
inductive Setting where
  | null
  | bool (b : Bool)
  | int (n : Int)
  | uint (n : Nat)
  | float (x : Double)
  | text (s : String)
  | list (items : List Setting)
  | group (entries : List (String × Setting))
deriving Inhabited

namespace Setting

/-- Inserts or replaces the entry of `name`, keeping the place of a replaced one. -/
def put (name : String) (v : Setting) : List (String × Setting) → List (String × Setting)
  | [] => [(name, v)]
  | (k, w) :: rest => if k == name then (name, v) :: rest else (k, w) :: put name v rest

/-- The value of `name` in a group's entries. -/
def find? (name : String) : List (String × Setting) → Option Setting
  | [] => none
  | (k, v) :: rest => if k == name then some v else find? name rest

/-- Inserts `s` into a sorted list of strings. -/
def insertSorted (s : String) : List String → List String
  | [] => [s]
  | t :: rest => if s < t then s :: t :: rest else t :: insertSorted s rest

/-- Sorts strings in code point order. -/
def sortStrings (xs : List String) : List String := xs.foldr insertSorted []

/-- Sorts rendered `(name, text)` pairs by name. -/
def sortPairs (xs : List (String × String)) : List (String × String) :=
  let insert (p : String × String) : List (String × String) → List (String × String) :=
    fun sorted =>
      let before := sorted.takeWhile fun q => q.1 < p.1 || q.1 == p.1
      before ++ p :: sorted.drop before.length
  xs.foldr insert []

mutual

/-- The generic text of a value. -/
def display : Setting → String
  | .null => "<nil>"
  | .bool b => if b then "true" else "false"
  | .int n => toString n
  | .uint n => toString n
  | .float x => x.generalText
  | .text s => s
  | .list items => "[" ++ " ".intercalate (displayItems items) ++ "]"
  | .group entries =>
    "map[" ++ " ".intercalate ((sortPairs (displayEntries entries)).map fun p => p.1 ++ ":" ++ p.2) ++ "]"

/-- The texts of list items. -/
def displayItems : List Setting → List String
  | [] => []
  | v :: rest => display v :: displayItems rest

/-- The names and texts of group entries. -/
def displayEntries : List (String × Setting) → List (String × String)
  | [] => []
  | (k, v) :: rest => (k, display v) :: displayEntries rest

end

/-- The name of a value's dynamic type, as decoding errors print it. -/
def typeName : Setting → String
  | .null => "<nil>"
  | .bool _ => "bool"
  | .int _ => "int"
  | .uint _ => "uint64"
  | .float _ => "float64"
  | .text _ => "string"
  | .list _ => "[]interface \x7b\x7d"
  | .group _ => "map[string]interface \x7b\x7d"

/-- The kind of a value's dynamic type: containers by their shape. -/
def kindName : Setting → String
  | .list _ => "slice"
  | .group _ => "map"
  | v => v.typeName

end Setting

end DdlCatalog.Config
