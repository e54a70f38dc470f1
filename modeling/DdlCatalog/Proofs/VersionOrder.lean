import Mathlib
import DdlCatalog.Catalog.Version
/-!
# The order of server versions

Versions are compared by their numeric form `major * 10000 + minor * 100 + release`, which is
computed in 64-bit two's complement. That number places a version among the others as the
order of its parts (major, then minor, then release) does, as long as the minor and release
parts stay below 100 and the sum stays below `2 ^ 63` (`Version.Compact`): the number is then
exact (`number_eq_packed_iff`), and two exact numbers compare as the parts do
(`packed_le_packed_iff`). A version read in the numeric form always has such parts, since the
form splits its number into them (`parse_compact_of_numeric`). A dotted version need not: its
parts are any counts, so `8.100.0` has the number of `9.0.0`, and a major part of fifteen
digits wraps around to a negative number.
-/

namespace DdlCatalog

/-- A signed reading of `bits` bits gives a value below `2 ^ (bits - 1)`. -/
theorem Numeric.parseNonNegative_lt {bits : Nat} {s : String} {n : Nat}
    (read : Numeric.parseNonNegative? bits s = some n) : n < 2 ^ (bits - 1) := by
  unfold Numeric.parseNonNegative? at read
  split at read
  split at read
  · split at read
    · rename_i bounded
      cases read
      simp only [Bool.and_eq_true, decide_eq_true_eq] at bounded
      exact bounded.1
    · cases read
  · cases read

namespace Catalog

namespace Version

/-- The numeric form before it is taken to 64 bits. -/
def packed (v : Version) : Nat := v.major * 10000 + v.minor * 100 + v.release

/-- `w` comes no later than `v` in the order of the parts: major, then minor, then release. -/
def PartsLE (w v : Version) : Prop :=
  w.major < v.major ∨ w.major = v.major ∧ (w.minor < v.minor ∨ w.minor = v.minor ∧ w.release ≤ v.release)

instance (w v : Version) : Decidable (w.PartsLE v) :=
  inferInstanceAs (Decidable (w.major < v.major ∨
    w.major = v.major ∧ (w.minor < v.minor ∨ w.minor = v.minor ∧ w.release ≤ v.release)))

/-- A version whose numeric form is exact and keeps its parts apart. -/
structure Compact (v : Version) : Prop where
  minor : v.minor < 100
  release : v.release < 100
  fits : v.packed < 2 ^ 63

theorem isZero_iff (v : Version) : v.isZero = true ↔ v = {} := by
  obtain ⟨major, minor, release⟩ := v
  simp [isZero, and_assoc]

/-- The numeric form is exact exactly when the sum fits a signed 64-bit integer. -/
theorem number_eq_packed_iff (v : Version) : v.number = v.packed ↔ v.packed < 2 ^ 63 := by
  unfold number wrap64 packed
  rw [Nat.pow_eq, Int.bmod_def]
  split <;> omega

/-- Numbers of parts below 100 compare as the parts do. -/
theorem packed_le_packed_iff {v w : Version} (hv : v.Compact) (hw : w.Compact) :
    w.packed ≤ v.packed ↔ w.PartsLE v := by
  have := hv.minor
  have := hv.release
  have := hw.minor
  have := hw.release
  unfold packed PartsLE
  omega

theorem atLeast_iff_number (v w : Version) :
    v.atLeast w = true ↔ v = {} ∨ w.number ≤ v.number := by
  simp [atLeast, isZero_iff]

theorem atLeast_iff_partsLE {v w : Version} (hv : v.Compact) (hw : w.Compact) :
    v.atLeast w = true ↔ v = {} ∨ w.PartsLE v := by
  rw [atLeast_iff_number, (number_eq_packed_iff v).2 hv.fits, (number_eq_packed_iff w).2 hw.fits,
    Int.ofNat_le, packed_le_packed_iff hv hw]

/-- The numeric form splits a number below `2 ^ 63` into parts that pack back to it; a number
below 100 is a major version alone. -/
theorem ofNumber_compact {n : Nat} (fits : n < 2 ^ 63) : (ofNumber n).Compact := by
  unfold ofNumber
  split
  · exact ⟨Nat.zero_lt_succ _, Nat.zero_lt_succ _, by simp only [packed]; omega⟩
  · exact ⟨Nat.mod_lt _ (by decide), Nat.mod_lt _ (by decide), by simp only [packed]; omega⟩

/-- Every version read in the numeric form, or from blank text, is compact. -/
theorem parse_compact_of_numeric {s : String} {v : Version} (read : parse s = .ok v)
    (numeric : '.' ∉ (Text.trimBlank s).toList) : v.Compact := by
  unfold parse at read
  simp only at read
  split at read
  · -- blank text reads as the zero version
    cases read
    exact ⟨Nat.zero_lt_succ _, Nat.zero_lt_succ _, by simp [packed]⟩
  · have noDot : (!(Text.trimBlank s).toList.contains '.') = true := by simpa using numeric
    rw [if_pos noDot] at read
    split at read
    · rename_i n counted
      cases read
      exact ofNumber_compact (Numeric.parseNonNegative_lt counted)
    · cases read

/-- Versions are ordered by their numeric form, taken in 64 bits, and the zero version comes
after every other. The numeric form is exact when the sum of the parts fits 63 bits, which every
version read in the numeric form does; then, for versions whose minor and release parts are
below 100, the order is that of the parts. -/
theorem atLeast_orders_parts {s t : String} {v w : Version} (hv : parse s = .ok v)
    (hw : parse t = .ok w) :
    (v.atLeast w = true ↔ v = {} ∨ w.number ≤ v.number) ∧
    (v.number = v.packed ↔ v.packed < 2 ^ 63) ∧
    ('.' ∉ (Text.trimBlank s).toList → v.Compact) ∧ ('.' ∉ (Text.trimBlank t).toList → w.Compact) ∧
    (v.Compact → w.Compact → (v.atLeast w = true ↔ v = {} ∨ w.PartsLE v)) := by
  refine ⟨atLeast_iff_number v w, number_eq_packed_iff v, parse_compact_of_numeric hv,
    parse_compact_of_numeric hw, ?_⟩
  intro compactV compactW
  exact atLeast_iff_partsLE compactV compactW

/-- `8.0.32` is read with the parts it is written with. -/
theorem parse_eight_zero_thirty_two : parse "8.0.32" = .ok ⟨8, 0, 32⟩ := by
  have trimmed : Text.trimBlank "8.0.32" = "8.0.32" := by decide +kernel
  have split : "8.0.32".splitOn "." = ["8", "0", "32"] := by
    unfold String.splitOn
    simp +decide only [String.splitOnAux.eq_1, ↓reduceIte]
  unfold parse
  simp only [trimmed, split]
  decide +kernel

/-- `50700` is read in the numeric form as `5.7.0`. -/
theorem parse_fifty_thousand_seven_hundred : parse "50700" = .ok ⟨5, 7, 0⟩ := by
  decide +kernel

/-- `8.0.32` is at least `5.7.0` written in the numeric form, as its parts are. -/
theorem release_at_least_numeric_older :
    (⟨8, 0, 32⟩ : Version).atLeast ⟨5, 7, 0⟩ = true ↔
      (⟨8, 0, 32⟩ : Version) = {} ∨ (⟨5, 7, 0⟩ : Version).PartsLE ⟨8, 0, 32⟩ :=
  (atLeast_orders_parts parse_eight_zero_thirty_two parse_fifty_thousand_seven_hundred).2.2.2.2
    ⟨by decide, by decide, by decide⟩ ⟨by decide, by decide, by decide⟩

/-- A minor part of 100 carries into the major part: `8.100.0` is at least `9.0.0`, though its
major part is smaller. -/
theorem minor_hundred_reaches_next_major :
    parse "8.100.0" = .ok ⟨8, 100, 0⟩ ∧ parse "9.0.0" = .ok ⟨9, 0, 0⟩ ∧
      (⟨8, 100, 0⟩ : Version) ≠ {} ∧ (⟨8, 100, 0⟩ : Version).atLeast ⟨9, 0, 0⟩ = true ∧
      ¬ (⟨9, 0, 0⟩ : Version).PartsLE ⟨8, 100, 0⟩ := by
  have trimmed : Text.trimBlank "8.100.0" = "8.100.0" ∧ Text.trimBlank "9.0.0" = "9.0.0" := by
    decide +kernel
  have split : "8.100.0".splitOn "." = ["8", "100", "0"] ∧ "9.0.0".splitOn "." = ["9", "0", "0"] := by
    unfold String.splitOn
    simp +decide only [String.splitOnAux.eq_1, ↓reduceIte]
  unfold parse
  simp only [trimmed, split]
  decide +kernel

end Version

end Catalog

end DdlCatalog
