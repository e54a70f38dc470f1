import DdlCatalog.Numeric.Double
/-!
The shortest decimal of a double: the fewest significant digits whose value reads back as the
same double, and of two such candidates the nearer one. On each grid of `k` significant digits
only the two grid points around the value can read back, so each grid costs two roundings in
exact arithmetic.

Two layouts are written from those digits: plain positional text (`0.001`, `1500`), and the
general form that switches to an exponent (`1e+06`, `1.5e-07`) when the decimal exponent is
below `-4` or at least `6`.
-/

namespace DdlCatalog.Numeric

/-- The number of decimal digits of `n`, one for zero. -/
def decimalLength (n : Nat) : Nat := (toString n).length

/-- `num / den` scaled by `10 ^ -p`, as a numerator and a denominator. -/
def scaleDecimal (num den : Nat) (p : Int) : Nat × Nat :=
  if 0 ≤ p then (num, den * Nat.pow 10 p.toNat) else (num * Nat.pow 10 (-p).toNat, den)

/-- Whether `num / den ≥ 10 ^ e`. -/
def atLeastPower (num den : Nat) (e : Int) : Bool :=
  let (a, b) := scaleDecimal num den e
  b ≤ a

/-- The decimal exponent of a positive fraction: the `e` with `10 ^ e ≤ num / den < 10 ^ (e + 1)`.
With `a` and `b` the digit counts of `num` and `den`, the fraction lies in
`(10 ^ (a - b - 1), 10 ^ (a - b + 1))`, so one comparison decides. -/
def decimalExponent (num den : Nat) : Int :=
  let e : Int := (decimalLength num : Int) - (decimalLength den : Int)
  if atLeastPower num den e then e else e - 1

/-- Whether `d * 10 ^ p` rounds to the double `x`. -/
def readsBack (x : Binary64) (d : Nat) (p : Int) : Bool :=
  let r := if 0 ≤ p then Binary64.round (d * Nat.pow 10 p.toNat) 1 else Binary64.round d (Nat.pow 10 (-p).toNat)
  r == x

/-- The grid point of `k` significant digits chosen for `x`, if one reads back. `a / b` is the
value on the grid's scale; of the two neighbours the nearer wins, a tie going to the even one. -/
def gridChoice (x : Binary64) (a b : Nat) (p : Int) : Option Nat :=
  let lo := a / b
  let hi := if a % b == 0 then lo else lo + 1
  let loOk := lo != 0 && readsBack x lo p
  let hiOk := readsBack x hi p
  if loOk && hiOk then
    let below := a - lo * b
    let above := hi * b - a
    if below < above then some lo
    else if above < below then some hi
    else if lo % 2 == 0 then some lo else some hi
  else if loOk then some lo
  else if hiOk then some hi
  else none

/-- Searches the grids of `k`, `k + 1`, … significant digits for the first that holds a point
reading back as `x`; seventeen digits always do, and the fuel runs out only past them. -/
def shortestFrom (x : Binary64) (num den : Nat) (e : Int) : Nat → Nat → Nat × Int
  | 0, _ =>
    let p := e - 16
    let (a, b) := scaleDecimal num den p
    (roundHalfEven a b, p)
  | fuel + 1, k =>
    let p := e - k + 1
    let (a, b) := scaleDecimal num den p
    match gridChoice x a b p with
    | some d => (d, p)
    | none => shortestFrom x num den e fuel (k + 1)

/-- Removes trailing zero digits, raising the exponent for each. -/
def stripZeros : Nat → Nat → Int → Nat × Int
  | 0, d, p => (d, p)
  | fuel + 1, d, p => if d != 0 && d % 10 == 0 then stripZeros fuel (d / 10) (p + 1) else (d, p)

/-- The shortest digits `d` and exponent `p` with `d * 10 ^ p` reading back as the positive `x`;
`d` has no trailing zero. -/
def Binary64.shortest (x : Binary64) : Nat × Int :=
  let (num, den) := x.fraction
  let (d, p) := shortestFrom x num den (decimalExponent num den) 17 1
  stripZeros (decimalLength d) d p

/-- `n` zeros. -/
def zeros (n : Nat) : String := String.ofList (List.replicate n '0')

/-- Digits `d` times `10 ^ p` written without an exponent. -/
def positional (d : Nat) (p : Int) : String :=
  let s := toString d
  if 0 ≤ p then s ++ zeros p.toNat
  else
    let f := (-p).toNat
    if f < s.length then
      String.ofList (s.toList.take (s.length - f)) ++ "." ++ String.ofList (s.toList.drop (s.length - f))
    else "0." ++ zeros (f - s.length) ++ s

/-- Digits `d` times `10 ^ p` written as a mantissa with one digit before the point and a
signed exponent of at least two digits. -/
def scientific (d : Nat) (p : Int) : String :=
  let s := (toString d).toList
  let exp : Int := p + s.length - 1
  let mantissa := match s with
    | [c] => c.toString
    | c :: rest => c.toString ++ "." ++ String.ofList rest
    | [] => "0"
  let expDigits := toString exp.natAbs
  mantissa ++ "e" ++ (if exp < 0 then "-" else "+") ++ (if expDigits.length < 2 then "0" else "") ++ expDigits

namespace Double

/-- The shortest text without an exponent: `5.7`, `-0`, `1000`, `+Inf`, `NaN`. -/
def positionalText : Double → String
  | .nan => "NaN"
  | .infinite negative => if negative then "-Inf" else "+Inf"
  | .finite negative m =>
    let sign := if negative then "-" else ""
    if m.significand == 0 then sign ++ "0" else
    let (d, p) := m.shortest
    sign ++ positional d p

/-- The shortest text in the general form: positional while the decimal exponent is in
`[-4, 6)`, with an exponent otherwise: `1e+06`, `0.0001`, `1.5e-05`. -/
def generalText : Double → String
  | .nan => "NaN"
  | .infinite negative => if negative then "-Inf" else "+Inf"
  | .finite negative m =>
    let sign := if negative then "-" else ""
    if m.significand == 0 then sign ++ "0" else
    let (d, p) := m.shortest
    let exp : Int := p + decimalLength d - 1
    if exp < -4 || 6 ≤ exp then sign ++ scientific d p else sign ++ positional d p

end Double

end DdlCatalog.Numeric
