import DdlCatalog.Text.Blank
import DdlCatalog.Text.Quoted
import DdlCatalog.Numeric.Decimal
/-!
Server versions such as `8.0.32`. A version is written `8.0.32`, `8.0`, `8`, or in the numeric
form `80032` of versioned comments; a suffix after the last part (`8.0.32-log`) is ignored. The
zero version means "the latest server" and satisfies every requirement.

The numeric form `major * 10000 + minor * 100 + release` is computed in 64-bit two's complement,
so parts large enough to overflow wrap around.
-/

namespace DdlCatalog.Catalog

/-- A server version. -/
structure Version where
  major : Nat := 0
  minor : Nat := 0
  release : Nat := 0
deriving DecidableEq, Repr, Inhabited

/-- Reduces an integer to the 64-bit two's complement range. -/
def wrap64 (i : Int) : Int := i.bmod (Nat.pow 2 64)

namespace Version

/-- Whether no version was set. -/
def isZero (v : Version) : Bool := v.major == 0 && v.minor == 0 && v.release == 0

/-- The numeric form, e.g. `80032`. -/
def number (v : Version) : Int :=
  wrap64 ((v.major : Int) * 10000 + (v.minor : Int) * 100 + (v.release : Int))

/-- Whether `v` is `other` or later. The zero version is later than everything. -/
def atLeast (v other : Version) : Bool := v.isZero || other.number ≤ v.number

/-- The dotted form, empty for the zero version. -/
def render (v : Version) : String :=
  if v.isZero then "" else s!"{v.major}.{v.minor}.{v.release}"

/-- The message for text that is not a version. -/
def invalidMessage (text : String) : String := "invalid server version " ++ Text.quote text

/-- A version from its numeric form: small numbers are a major version alone. -/
def ofNumber (n : Nat) : Version :=
  if n < 100 then { major := n } else ⟨n / 10000, n / 100 % 100, n % 100⟩

/-- The parts of a dotted version; only the last part may carry a suffix, which is cut at its
first character that is not an ASCII digit. -/
def readParts : List String → Option (List Nat)
  | [] => some []
  | [last] => (Numeric.parseCount? (String.ofList (last.toList.takeWhile Char.isDigit))).map ([·])
  | p :: rest => do
    let n ← Numeric.parseCount? p
    let ns ← readParts rest
    pure (n :: ns)

/-- Reads a version. Blank text is the zero version; the error is the message to show. -/
def parse (text : String) : Except String Version :=
  let s := Text.trimBlank text
  if s.isEmpty then .ok {} else
  if !s.toList.contains '.' then
    match Numeric.parseCount? s with
    | some n => .ok (ofNumber n)
    | none => .error (invalidMessage s)
  else
    let parts := s.splitOn "."
    if 3 < parts.length then .error (invalidMessage s) else
    match readParts parts with
    | some ns => .ok ⟨ns.getD 0 0, ns.getD 1 0, ns.getD 2 0⟩
    | none => .error (invalidMessage s)

end Version

end DdlCatalog.Catalog
