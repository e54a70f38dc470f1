import DdlCatalog.Numeric.Binary64
/-!
Doubles as values: a sign with a rounded magnitude, an infinity, or not-a-number, and the
reading of a decimal literal into one. A literal is `digits[.digits][e[+-]digits]` with an
optional sign, the form configuration files write numbers in. It is rounded once, to the nearest
double with ties to even; past the largest double the reading fails, and far below the smallest
it gives a signed zero.
-/

namespace DdlCatalog.Numeric

/-- A double: a signed finite magnitude (zero when the significand is), a signed infinity, or
not-a-number. -/
inductive Double where
  | finite (negative : Bool) (magnitude : Binary64)
  | infinite (negative : Bool)
  | nan
deriving DecidableEq, Repr, Inhabited

namespace Double

/-- Whether the value is zero, of either sign. -/
def isZero : Double → Bool
  | .finite _ m => m.significand == 0
  | _ => false

/-- The value of a run of ASCII digits, with their count. -/
def digitRun (cs : List Char) : Nat × Nat :=
  cs.foldl (fun (acc : Nat × Nat) c => (acc.1 * 10 + (c.toNat - 48), acc.2 + 1)) (0, 0)

/-- Splits a decimal literal into sign, integer digits, fraction digits and exponent, or `none`
when the text is not one. At least one digit stands before or after the point. -/
def splitLiteral (s : String) : Option (Bool × List Char × List Char × Int) :=
  let cs := s.toList
  let (negative, body) := match cs with
    | '-' :: rest => (true, rest)
    | '+' :: rest => (false, rest)
    | _ => (false, cs)
  let whole := body.takeWhile Char.isDigit
  let afterWhole := body.dropWhile Char.isDigit
  let (frac, afterFrac) := match afterWhole with
    | '.' :: rest => (rest.takeWhile Char.isDigit, rest.dropWhile Char.isDigit)
    | rest => ([], rest)
  if whole.isEmpty && frac.isEmpty then none else
  match afterFrac with
  | [] => some (negative, whole, frac, 0)
  | e :: rest =>
    if e != 'e' && e != 'E' then none else
    let (expNegative, digits) := match rest with
      | '-' :: ds => (true, ds)
      | '+' :: ds => (false, ds)
      | ds => (false, ds)
    if digits.isEmpty || !digits.all Char.isDigit then none else
    let n := (digitRun digits).1
    some (negative, whole, frac, if expNegative then -(n : Int) else n)

/-- Reads a decimal literal, rounding to the nearest double. Fails on other text and when the
value is past the largest double. -/
def ofDecimal? (s : String) : Option Double :=
  match splitLiteral s with
  | none => none
  | some (negative, whole, frac, exp) =>
    let mantissa := (digitRun (whole ++ frac)).1
    let scale : Int := exp - frac.length
    if mantissa == 0 then some (.finite negative ⟨0, 0⟩) else
    let magnitude : Int := (toString mantissa).length + scale
    if 311 < magnitude then none
    else if magnitude < -326 then some (.finite negative ⟨0, 0⟩)
    else
      let rounded :=
        if 0 ≤ scale then Binary64.round (mantissa * Nat.pow 10 scale.toNat) 1
        else Binary64.round mantissa (Nat.pow 10 (-scale).toNat)
      if rounded.overflows then none else some (.finite negative rounded)

end Double

end DdlCatalog.Numeric
