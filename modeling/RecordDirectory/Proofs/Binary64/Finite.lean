import Mathlib.Algebra.Order.Field.Power
import Mathlib.Algebra.Order.Field.Rat
import Mathlib.Tactic.Positivity
import RecordDirectory.Json.Reader

namespace RecordDirectory

/-!
# Binary numbers that are read

A binary number is finite: its significand has at most 53 binary digits, and its exponent is in range.  The
reader makes no others.  It takes the exponent from the size of the number, so that the significand before
rounding is below the power of two for 53 digits.  Rounding can only reach this power, and then the exponent
is raised by one.
-/

namespace Binary64

/-- The numbers that there are. -/
structure Finite (x : Binary64) : Prop where
  significand : x.significand < twoTo precision
  least : leastExponent ≤ x.exponent
  greatest : x.exponent ≤ greatestExponent

theorem cast_twoTo (n : Nat) : (twoTo n : ℚ) = 2 ^ n := by
  exact_mod_cast rfl

/-- A power of two as a fraction of whole powers. -/
theorem two_zpow_eq (k : Int) : (2 : ℚ) ^ k = 2 ^ k.toNat / 2 ^ (-k).toNat := by
  rw [← zpow_natCast, ← zpow_natCast, ← zpow_sub₀ (by decide)]
  congr 1
  omega

/-- A comparison with a power of two, without fractions. -/
theorem mul_twoTo_lt_iff {num den : Nat} {k : Int} :
    num * twoTo (-k).toNat < den * twoTo k.toNat ↔ (num : ℚ) < den * 2 ^ k := by
  have positive : (0 : ℚ) < 2 ^ (-k).toNat := by positivity
  rw [two_zpow_eq, ← mul_div_assoc, lt_div_iff₀ positive, ← cast_twoTo, ← cast_twoTo]
  exact_mod_cast Iff.rfl

theorem lt_floorLog2 {num den : Nat} (positive : 0 < den) : (num : ℚ) < den * 2 ^ (floorLog2 num den + 1) := by
  unfold floorLog2
  dsimp only
  split
  · next below =>
    rw [Int.sub_add_cancel]
    exact mul_twoTo_lt_iff.mp below
  · have above : (num : ℚ) < 2 ^ (num.log2 + 1) := by exact_mod_cast Nat.lt_log2_self
    have reached : (2 : ℚ) ^ den.log2 ≤ den := by exact_mod_cast Nat.log2_self_le (Nat.ne_of_gt positive)
    have power : (0 : ℚ) ≤ 2 ^ ((num.log2 : Int) - den.log2 + 1) := by positivity
    calc
      (num : ℚ) < 2 ^ (num.log2 + 1) := above
      _ = 2 ^ den.log2 * 2 ^ ((num.log2 : Int) - den.log2 + 1) := by
        rw [← zpow_natCast, ← zpow_natCast, ← zpow_add₀ (by decide)]
        congr 1
        omega
      _ ≤ den * 2 ^ ((num.log2 : Int) - den.log2 + 1) := mul_le_mul_of_nonneg_right reached power

theorem roundToEven_le {num den bound : Nat} (below : num < bound * den) : roundToEven num den ≤ bound := by
  have quotient := Nat.div_lt_of_lt_mul (Nat.mul_comm bound den ▸ below)
  unfold roundToEven
  dsimp only
  split
  · omega
  · split
    · omega
    · split <;> omega

theorem scaledSignificand_le {num den n : Nat} {exponent : Int} (below : (num : ℚ) < den * 2 ^ (exponent + n)) :
    scaledSignificand num den exponent ≤ twoTo n := by
  refine roundToEven_le ?_
  have scaled : num * twoTo (-exponent).toNat < (den * twoTo n) * twoTo exponent.toNat := by
    rw [mul_twoTo_lt_iff, Nat.cast_mul, cast_twoTo, mul_assoc, ← zpow_natCast, ← zpow_add₀ (by decide),
      Int.add_comm]
    exact below
  calc
    num * twoTo (-exponent).toNat < (den * twoTo n) * twoTo exponent.toNat := scaled
    _ = twoTo n * (den * twoTo exponent.toNat) := by rw [Nat.mul_comm den, Nat.mul_assoc]

/-- A fraction is read as a finite number, or as none. -/
theorem finite_of_ofFraction? {negative : Bool} {num den : Nat} {x : Binary64} (positive : 0 < den)
    (found : ofFraction? negative num den = some x) : x.Finite := by
  unfold ofFraction? at found
  dsimp only at found
  split at found
  · cases found
    have zero : 0 < twoTo precision := twoTo_pos _
    have range : leastExponent ≤ greatestExponent := by decide
    exact ⟨zero, Int.le_refl _, range⟩
  · have least := Int.le_max_right (floorLog2 num den - (precision - 1)) leastExponent
    have reached := Int.le_max_left (floorLog2 num den - (precision - 1)) leastExponent
    generalize max (floorLog2 num den - (precision - 1)) leastExponent = exponent at found least reached
    have below : (num : ℚ) < den * 2 ^ (exponent + precision) := by
      have power : (2 : ℚ) ^ (floorLog2 num den + 1) ≤ 2 ^ (exponent + precision) :=
        zpow_le_zpow_right₀ (by decide) (by omega)
      exact (lt_floorLog2 positive).trans_le (mul_le_mul_of_nonneg_left power (Nat.cast_nonneg den))
    have rounded := scaledSignificand_le below
    by_cases full : scaledSignificand num den exponent = twoTo precision
    · rw [if_pos full] at found
      split at found
      · next greatest =>
        cases found
        have half : twoTo (precision - 1) < twoTo precision := by decide
        exact ⟨half, Int.le_trans least (Int.le_add_of_nonneg_right (by decide)), greatest⟩
      · cases found
    · rw [if_neg full] at found
      split at found
      · next greatest =>
        cases found
        exact ⟨Nat.lt_of_le_of_ne rounded full, least, greatest⟩
      · cases found

theorem finite_of_ofDecimal? {negative : Bool} {digits : Nat} {exponent : Int} {x : Binary64}
    (found : ofDecimal? negative digits exponent = some x) : x.Finite := by
  unfold ofDecimal? at found
  dsimp only at found
  split at found
  · exact finite_of_ofFraction? (by decide) found
  · split at found
    · cases found
    · split at found
      · exact finite_of_ofFraction? (by decide) found
      · exact finite_of_ofFraction? (tenTo_pos _) found

/-- The reader makes whole numbers and finite ones. -/
theorem finite_of_numberOf? {negative : Bool} {whole : List Char} {fraction : Option (List Char)}
    {exponent : Option Int} {value : Json}
    (found : Json.numberOf? negative whole fraction exponent = some value) :
    (∃ n, value = .integer n) ∨ ∃ x : Binary64, value = .float x ∧ x.Finite := by
  have finite : ((ofDecimal? negative (Numeral.value (whole ++ fraction.getD []))
      (exponent.getD 0 - ((fraction.getD []).length : Int))).map Json.float) = some value →
      ∃ x : Binary64, value = .float x ∧ x.Finite := by
    intro same
    rcases Option.map_eq_some_iff.mp same with ⟨x, read, rfl⟩
    exact ⟨x, rfl, finite_of_ofDecimal? read⟩
  unfold Json.numberOf? at found
  dsimp only at found
  split at found
  · split at found
    · split at found
      · cases found
        exact .inl ⟨_, rfl⟩
      · exact .inr (finite found)
    · split at found
      · cases found
        exact .inl ⟨_, rfl⟩
      · exact .inr (finite found)
  · exact .inr (finite found)

end Binary64
end RecordDirectory
