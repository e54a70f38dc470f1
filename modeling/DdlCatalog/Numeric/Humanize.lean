/-!
Sizes and counts for people. A byte count is shown in binary units with one decimal below ten
(`2.0 MiB`, `16 MiB`), and a count with its thousands grouped (`12,345`).

The unit of a byte count is found with floating-point logarithms, so a count just below a power
of 1024 can be shown in the larger unit, as the tools people compare with do.
-/

namespace DdlCatalog.Numeric

/-- The binary units, from bytes up. -/
def binaryUnits : List String := ["B", "KiB", "MiB", "GiB", "TiB", "PiB", "EiB"]

/-- A number of tenths rounded to a whole number, halves to the even neighbour. -/
def roundTenths (tenths : Nat) : Nat :=
  let q := tenths / 10
  let r := tenths % 10
  if r < 5 then q else if r > 5 then q + 1 else if q % 2 == 0 then q else q + 1

/-- A byte count in binary units: exact below ten bytes, else one decimal below ten units and
none from ten up. -/
def binaryBytes (n : Nat) : String :=
  if n < 10 then s!"{n} B"
  else
    let x := Float.ofNat n
    let e := Float.floor (Float.log x / Float.log 1024)
    let tenths := (Float.floor (x / Float.pow 1024 e * 10 + 0.5)).toUInt64.toNat
    let unit := binaryUnits.getD e.toUInt64.toNat ""
    if tenths < 100 then s!"{tenths / 10}.{tenths % 10} {unit}"
    else s!"{roundTenths tenths} {unit}"

/-- The groups of three digits of `n`, most significant first. -/
def thousands (n : Nat) : List Nat :=
  if n < 1000 then [n] else thousands (n / 1000) ++ [n % 1000]
termination_by n
decreasing_by omega

/-- A group of three digits, padded with zeros. -/
def threeDigits (n : Nat) : String :=
  let s := toString n
  "".pushn '0' (3 - s.length) ++ s

/-- A count with its thousands separated by commas. -/
def groupThousands (n : Nat) : String :=
  match thousands n with
  | [] => "0"
  | first :: rest => ",".intercalate (toString first :: rest.map threeDigits)

end DdlCatalog.Numeric
