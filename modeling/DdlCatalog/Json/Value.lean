/-!
Documents written as JSON or YAML. Records keep their members in the order they were built,
which is the order the output shows; the entries of a map are put in order by the writer, each
format in its own. A list that was never made is kept apart from an empty one: JSON writes it
`null` and YAML an empty list. Numbers are integers, since nothing here writes fractions.

The helpers `opt*` build the members of a record whose empty values are left out: an empty
string, `false`, zero, an empty list or an absent value adds no member.
-/

namespace DdlCatalog

/-- A JSON document. -/
inductive Json where
  | null
  | bool (b : Bool)
  | num (n : Int)
  | str (s : String)
  | arr (items : List Json)
  | obj (members : List (String × Json))
  /-- A map from names to values; its writer orders the entries. -/
  | dict (entries : List (String × Json))
  /-- A list that was never made. -/
  | nil
deriving Repr, Inhabited

namespace Json

/-- A string member, left out when empty. -/
def optStr (key value : String) : List (String × Json) :=
  if value.isEmpty then [] else [(key, .str value)]

/-- A boolean member, left out when false. -/
def optBool (key : String) (value : Bool) : List (String × Json) :=
  if value then [(key, .bool true)] else []

/-- A number member, left out when zero. -/
def optNat (key : String) (value : Nat) : List (String × Json) :=
  if value == 0 then [] else [(key, .num value)]

/-- A list member, left out when empty. -/
def optList (key : String) (items : List Json) : List (String × Json) :=
  if items.isEmpty then [] else [(key, .arr items)]

/-- A list that is absent when empty. -/
def listOrNull (items : List Json) : Json := if items.isEmpty then .nil else .arr items

/-- A list of strings. -/
def strs (items : List String) : Json := .arr (items.map .str)

/-- A count that may be unset, written `-1` when it is. -/
def countOrUnset : Option Nat → Json
  | some n => .num n
  | none => .num (-1)

end Json

end DdlCatalog
