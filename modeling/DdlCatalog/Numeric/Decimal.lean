/-!
Decimal integers as the configuration and the analyser read them: an optional sign and at least
one ASCII digit, nothing else. A reading succeeds only for a value that is not negative and fits
a signed integer of the given width; `-0` is zero and passes.
-/

namespace DdlCatalog.Numeric

/-- The value of a run of ASCII digits; `none` when it is empty or holds another character. -/
def digitsValue? (cs : List Char) : Option Nat :=
  if cs.isEmpty || !cs.all Char.isDigit then none
  else some (cs.foldl (fun acc c => acc * 10 + (c.toNat - 48)) 0)

/-- Splits off a leading sign: whether it was a minus, and the rest. -/
def splitSign : List Char → Bool × List Char
  | '+' :: rest => (false, rest)
  | '-' :: rest => (true, rest)
  | cs => (false, cs)

/-- Reads a signed decimal integer that must be non-negative and below `2 ^ (bits - 1)`. -/
def parseNonNegative? (bits : Nat) (s : String) : Option Nat :=
  let (negative, body) := splitSign s.toList
  match digitsValue? body with
  | some n => if n < Nat.pow 2 (bits - 1) && (!negative || n == 0) then some n else none
  | none => none

/-- A non-negative value of a 64-bit signed integer. -/
def parseCount? (s : String) : Option Nat := parseNonNegative? 64 s

/-- A non-negative value of a 32-bit signed integer. -/
def parseSmallCount? (s : String) : Option Nat := parseNonNegative? 32 s

end DdlCatalog.Numeric
