/-!
Rounding to binary64. A positive rational is rounded to the nearest number with a 53-bit
significand, ties to even, which is how a decimal reading and a product of two doubles are
rounded. A rounded value is kept exact as `significand * 2 ^ exponent` with the significand in
`[2 ^ 52, 2 ^ 53)`.

Only the top of the exponent range is modelled: a value of `2 ^ 1024` or more has overflowed.
Below the normal range the rounding keeps 53 bits where a double keeps fewer; every value there
is far below one, and the callers only take integer parts of products with at most `2 ^ 60`.
-/

namespace DdlCatalog.Numeric

/-- A rounded positive number `significand * 2 ^ exponent`, or zero when the significand is. -/
structure Binary64 where
  significand : Nat
  exponent : Int
deriving DecidableEq, Repr

/-- The fraction `num / (den * 2 ^ k)` as a numerator and a denominator. -/
def shifted (num den : Nat) (k : Int) : Nat × Nat :=
  if 0 ≤ k then (num, den * Nat.pow 2 k.toNat) else (num * Nat.pow 2 (-k).toNat, den)

/-- Rounds `num / den` to an integer, ties to even. -/
def roundHalfEven (num den : Nat) : Nat :=
  let q := num / den
  let r := num % den
  if den < 2 * r then q + 1
  else if 2 * r < den then q
  else if q % 2 == 0 then q else q + 1

namespace Binary64

/-- Rounds `num / den` to 53 significant bits. Writing `a` and `b` for the bit lengths of `num`
and `den` less one, the quotient scaled by `2 ^ (b - a + 52)` lies in `(2 ^ 51, 2 ^ 53)`, so one
halving of the scale brings it into `[2 ^ 52, 2 ^ 53)`. -/
def round (num den : Nat) : Binary64 :=
  if num == 0 || den == 0 then ⟨0, 0⟩ else
  let k0 : Int := (num.log2 : Int) - (den.log2 : Int) - 52
  let first := shifted num den k0
  let k := if first.1 / first.2 < Nat.pow 2 52 then k0 - 1 else k0
  let (a, b) := shifted num den k
  let m := roundHalfEven a b
  if m == Nat.pow 2 53 then ⟨Nat.pow 2 52, k + 1⟩ else ⟨m, k⟩

/-- Whether the value is `2 ^ 1024` or more: past the largest finite double. -/
def overflows (x : Binary64) : Bool := x.significand != 0 && 1024 ≤ x.exponent + 52

/-- The exact value as a numerator and a denominator. -/
def fraction (x : Binary64) : Nat × Nat := shifted x.significand 1 (-x.exponent)

/-- The product with a natural number, rounded again. -/
def mulNat (x : Binary64) (c : Nat) : Binary64 :=
  let (n, d) := x.fraction
  round (n * c) d

/-- The integer part of the value. -/
def floor (x : Binary64) : Nat :=
  let (n, d) := x.fraction
  n / d

end Binary64

end DdlCatalog.Numeric
