import DdlCatalog.Text.Utf8
import DdlCatalog.Text.Quoted
import DdlCatalog.Text.CaseMap
import DdlCatalog.Text.Blank
import DdlCatalog.Text.Digit
import DdlCatalog.Numeric.Binary64
/-!
Byte sizes written with a unit: `4096`, `16M`, `1.5G`, `10kB`, `16MiB`, `1,000`.

A size is a number followed by an optional unit. The number is the leading run of digits,
points and commas (the commas are dropped); it is read as a double, multiplied by the unit in
double arithmetic, and cut to an integer below `2 ^ 64`. Units are case-insensitive: `kB`, `MB`,
... are powers of 1000 and `KiB`, `MiB`, ... powers of 1024, each also without its final `b`.
A size option of a tablespace or logfile group ending in one of `k m g t` (either case) means
the binary unit, so `16M` is `16MiB`.

The run is measured in characters but cut from the encoded bytes, so a digit of another
script makes a number that does not read; the error shows the bytes that were cut.
-/

namespace DdlCatalog.Numeric

open DdlCatalog.Text

/-- Why a size does not read. -/
inductive SizeError where
  /-- The text is blank. -/
  | empty
  /-- The number part is not a decimal number. -/
  | badNumber (digits : Bytes)
  /-- The number part is beyond the doubles. -/
  | numberOutOfRange (digits : Bytes)
  /-- The unit is not one of the known names. -/
  | unknownUnit (unit : String)
  /-- The size is `2 ^ 64` bytes or more. -/
  | tooLarge (text : String)
deriving DecidableEq, Repr

/-- The message of a size error. -/
def SizeError.message : SizeError → String
  | .empty => "empty size value"
  | .badNumber ds => "strconv.ParseFloat: parsing " ++ quoteBytes ds ++ ": invalid syntax"
  | .numberOutOfRange ds => "strconv.ParseFloat: parsing " ++ quoteBytes ds ++ ": value out of range"
  | .unknownUnit u => "unhandled size name: " ++ u
  | .tooLarge s => "too large: " ++ s

/-- The unit names, lower case, with the number of bytes of each. -/
def sizeUnits : List (String × Nat) := [
  ("b", 1), ("kib", Nat.pow 2 10), ("kb", Nat.pow 10 3), ("mib", Nat.pow 2 20), ("mb", Nat.pow 10 6),
  ("gib", Nat.pow 2 30), ("gb", Nat.pow 10 9), ("tib", Nat.pow 2 40), ("tb", Nat.pow 10 12), ("pib", Nat.pow 2 50),
  ("pb", Nat.pow 10 15), ("eib", Nat.pow 2 60), ("eb", Nat.pow 10 18),
  ("", 1), ("ki", Nat.pow 2 10), ("k", Nat.pow 10 3), ("mi", Nat.pow 2 20), ("m", Nat.pow 10 6),
  ("gi", Nat.pow 2 30), ("g", Nat.pow 10 9), ("ti", Nat.pow 2 40), ("t", Nat.pow 10 12), ("pi", Nat.pow 2 50),
  ("p", Nat.pow 10 15), ("ei", Nat.pow 2 60), ("e", Nat.pow 10 18)]

/-- Whether a character continues the number part. -/
def isNumberChar (c : Char) : Bool := isDecimalDigit c || c == '.' || c == ','

/-- Reads ASCII digits with at most one point and at least one digit, as the digits' value
and the number of digits after the point. -/
def readDecimal? (bs : Bytes) : Option (Nat × Nat) :=
  let isDigitByte (b : UInt8) : Bool := 0x30 ≤ b && b ≤ 0x39
  let value (ds : Bytes) : Nat := ds.foldl (fun acc b => acc * 10 + (b.toNat - 0x30)) 0
  match bs.splitOn 0x2E with
  | [whole] =>
    if !whole.isEmpty && whole.all isDigitByte then some (value whole, 0) else none
  | [whole, frac] =>
    if (whole.length + frac.length) != 0 && whole.all isDigitByte && frac.all isDigitByte then
      some (value (whole ++ frac), frac.length)
    else none
  | _ => none

/-- The number of bytes a size with a unit stands for. -/
def parseBytes (s : String) : Except SizeError Nat :=
  let cs := s.toList
  let run := (cs.takeWhile isNumberChar).length
  let digits := ((Utf8.encode s).take run).filter (· != 0x2C)
  match readDecimal? digits with
  | none => .error (.badNumber digits)
  | some (mantissa, scale) =>
    let number := Binary64.round mantissa (Nat.pow 10 scale)
    if number.overflows then .error (.numberOutOfRange digits) else
    let unit := lower (trimBlank (String.ofList (cs.drop run)))
    match sizeUnits.lookup unit with
    | none => .error (.unknownUnit unit)
    | some factor =>
      let total := number.mulNat factor
      if Nat.pow 2 64 ≤ total.floor then .error (.tooLarge s) else .ok total.floor

/-- The size of a tablespace or logfile group option: blank-trimmed, and a final `k m g t`
(either case) read as the binary unit. -/
def parseSize (text : String) : Except SizeError Nat :=
  let s := trimBlank text
  match s.toList.getLast? with
  | none => .error .empty
  | some c =>
    if "kKmMgGtT".toList.contains c then parseBytes (s ++ "iB") else parseBytes s

end DdlCatalog.Numeric
