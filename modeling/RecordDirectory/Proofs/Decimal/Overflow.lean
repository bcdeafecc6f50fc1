import Mathlib.Algebra.Order.Field.Basic
import Mathlib.Tactic.Linarith
import Mathlib.Tactic.NormNum
import RecordDirectory.Proofs.Decimal.Exact

namespace RecordDirectory

/-!
# Conversions and numbers of 64 bits

The conversion of a literal computes with numbers of 64 bits.  It looks at the exponent and at the number of
places before it goes on, and from there the scale only comes closer to its bound.  It does not look at the
length of the number when it is written out.  This is beyond 64 bits where a literal has digits before the
point and an exponent near the greatest one, and then the conversion has no answer.

A literal like this is `Overlong`.  For every other one all the numbers fit, and at most twenty-nine zeros are
written out (`computes_or_overlong`), so that it has an answer (`exact_eq_overflow_iff`).  No decimal has the
value of an overlong literal (`Overlong.value_ne`), so that nothing would be lost if it was refused.
-/

namespace Literal

/-- The exponent is within 64 bits, but the number of digits before the point is not when the number is
written out. -/
structure Overlong (l : Literal) : Prop where
  exponent : l.exponent < signedBound
  nonzero : l.digits ≠ []
  length : signedBound ≤ l.digits.length - l.places

/-- The digits of a literal are counted in 64 bits. -/
def Short (l : Literal) : Prop :=
  l.whole.length + l.fraction.length < signedBound

theorem length_digits_le (l : Literal) : l.digits.length ≤ l.whole.length + l.fraction.length := by
  rw [← List.length_append]
  exact (List.dropWhile_sublist _).length_le

theorem Spells.short {l : Literal} {text : List Char} (spelled : l.Spells text)
    (fits : text.length < signedBound) : l.Short := by
  rcases spelled with @⟨sign, mantissa, exponent, _, digits, _⟩
  have written : l.whole.length + l.fraction.length ≤ mantissa.length := by
    generalize l.whole = whole, l.fraction = fraction at digits
    cases digits with
    | plain => simp
    | pointed => simp
    | bare => simp
  rw [List.length_append, List.length_append] at fits
  unfold Short
  omega

/-- Without digits before the point that the exponent moves, nothing overflows. -/
theorem Overlong.le_length_add {l : Literal} (long : l.Overlong) :
    (signedBound : Int) ≤ l.whole.length + l.exponent := by
  have length := long.length
  have digits := length_digits_le l
  unfold places at length
  omega

/-! ## What a conversion computes -/

theorem convert_eq_overflow_iff {negative : Bool} {digits reversed : List Char} {places scale : Int}
    (dropped : dropZeros digits.reverse places = (reversed, scale)) :
    convert negative digits places = .error .overflow ↔
      scale ≤ Decimal.greatestScale ∧ Numeral.fitsSigned64 (reversed.length - min scale 0) = false := by
  unfold convert
  rw [dropped]
  dsimp only
  constructor
  · intro overflows
    split at overflows
    · cases overflows
    · next room =>
      split at overflows
      · next beyond => exact ⟨Int.not_lt.mp room, Bool.eq_false_of_not_eq_true beyond⟩
      · split at overflows
        · cases overflows
        · split at overflows <;> cases overflows
  · rintro ⟨room, beyond⟩
    rw [if_neg (Int.not_lt.mpr room), if_pos (by rw [beyond]; exact Bool.false_ne_true)]

namespace Shortened

variable {digits kept : List Char} {places scale : Int}

theorem length_le (short : Shortened digits places kept scale) : kept.length ≤ digits.length := by
  rcases short.split with ⟨n, rfl, _⟩
  simp

theorem le_places (short : Shortened digits places kept scale) : scale ≤ places := by
  rcases short.split with ⟨n, _, rfl⟩
  omega

/-- Nothing is dropped where places are missing. -/
theorem eq_of_negative (short : Shortened digits places kept scale) (missing : scale < 0) :
    kept = digits ∧ scale = places := by
  rcases short with ⟨⟨n, rfl, rfl⟩, least, _⟩
  have none : n = 0 := by omega
  subst none
  simp

end Shortened

/-- The numbers that a conversion computes in 64 bits after the number of places: each scale on the way to its
bound, the length of the number when it is written out, and, where that is not too long, as many zeros. -/
structure Computes (l : Literal) (reversed : List Char) (final : Int) : Prop where
  dropped : dropZeros l.digits.reverse l.places = (reversed, final)
  scale : ∀ scale, final ≤ scale → scale ≤ l.places → Numeral.fitsSigned64 scale = true
  length : Numeral.fitsSigned64 (reversed.length - min final 0) = true
  zeros : reversed.length - min final 0 ≤ greatestLength → (-final).toNat ≤ greatestLength

theorem computes_or_overlong {l : Literal} (short : l.Short) (exponent : Numeral.fitsSigned64 l.exponent = true)
    (places : Numeral.fitsSigned64 l.places = true) :
    (∃ reversed final, l.Computes reversed final) ∨ l.Overlong := by
  have digits := length_digits_le l
  have parts := shortened l.digits l.places
  rcases dropped : dropZeros l.digits.reverse l.places with ⟨reversed, final⟩
  rw [dropped] at parts
  dsimp only at parts
  have kept := parts.length_le
  have least := parts.least
  rw [List.length_reverse] at kept
  unfold Short at short
  rw [Numeral.fitsSigned64_iff] at exponent places
  by_cases fits : (reversed.length - min final 0 : Int) < signedBound
  · refine .inl ⟨reversed, final, dropped, ?_, ?_, ?_⟩
    · intro scale above below
      rw [Numeral.fitsSigned64_iff]
      omega
    · rw [Numeral.fitsSigned64_iff]
      omega
    · intro few
      omega
  · have missing : final < 0 := by omega
    rcases parts.eq_of_negative missing with ⟨same, rfl⟩
    have length : (signedBound : Int) ≤ l.digits.length - l.places := by
      rw [← same, List.length_reverse]
      omega
    refine .inr ⟨exponent.2, fun empty => ?_, length⟩
    -- Without digits, the length is as many zeros as the exponent says.
    rw [empty] at length
    unfold Literal.places at length
    simp only [List.length_nil] at length
    omega

/-! ## What overflows -/

theorem Computes.convert_ne_overflow {l : Literal} {reversed : List Char} {final : Int}
    (computes : l.Computes reversed final) (negative : Bool) :
    convert negative l.digits l.places ≠ .error .overflow := by
  intro overflows
  have beyond := ((convert_eq_overflow_iff computes.dropped).mp overflows).2
  rw [computes.length] at beyond
  cases beyond

theorem Overlong.convert_eq_overflow {l : Literal} (long : l.Overlong) (short : l.Short) (negative : Bool) :
    convert negative l.digits l.places = .error .overflow := by
  have digits := length_digits_le l
  have length := long.length
  have parts := shortened l.digits l.places
  rcases dropped : dropZeros l.digits.reverse l.places with ⟨reversed, final⟩
  rw [dropped] at parts
  dsimp only at parts
  have lower := parts.le_places
  unfold Short at short
  have missing : final < 0 := by omega
  rcases parts.eq_of_negative missing with ⟨same, rfl⟩
  rw [← same, List.length_reverse] at length
  refine (convert_eq_overflow_iff dropped).mpr ⟨by omega, ?_⟩
  rw [Bool.eq_false_iff, Ne, Numeral.fitsSigned64_iff]
  omega

/-- The literals without an answer are the overlong ones. -/
theorem exact_eq_overflow_iff {l : Literal} (short : l.Short) : l.exact = .error .overflow ↔ l.Overlong := by
  unfold exact
  constructor
  · intro overflows
    split at overflows
    · cases overflows
    · next exponent =>
      split at overflows
      · cases overflows
      · split at overflows
        · cases overflows
        · next places =>
          rcases computes_or_overlong short (not_not.mp exponent) (not_not.mp places) with
            ⟨reversed, final, computes⟩ | long
          · exact absurd overflows (computes.convert_ne_overflow l.negative)
          · exact long
  · intro long
    have digits := length_digits_le l
    have reached := long.le_length_add
    have length := long.length
    have bound := long.exponent
    unfold Short at short
    have exponent : Numeral.fitsSigned64 l.exponent = true := Numeral.fitsSigned64_iff.mpr (by omega)
    have places : Numeral.fitsSigned64 l.places = true := Numeral.fitsSigned64_iff.mpr (by unfold places; omega)
    rw [if_neg (not_not_intro exponent), if_neg (by simpa using long.nonzero), if_neg (not_not_intro places)]
    exact long.convert_eq_overflow short l.negative

/-! ## What overlong literals denote -/

theorem Overlong.le_value {l : Literal} (long : l.Overlong) (proper : l.Proper) :
    (10 : ℚ) ^ (signedBound - 1) ≤ |l.value| := by
  rcases Numeral.dropWhile_zero_cases proper with empty | ⟨c, rest, starts, digit, nonzero⟩
  · exact absurd empty long.nonzero
  · have length := long.length
    have size : (10 : ℚ) ^ rest.length ≤ Numeral.value l.digits := by
      rw [digits, starts, ← cast_tenTo]
      exact_mod_cast Numeral.tenTo_le_value digit nonzero rest
    have power : (0 : ℚ) ≤ 10 ^ (-l.places) := zpow_nonneg (by decide) _
    have absolute : |l.value| = Numeral.value l.digits * 10 ^ (-l.places) := by
      rw [value_eq, abs_signed, abs_of_nonneg (mul_nonneg (Nat.cast_nonneg _) power)]
    rw [digits, starts, List.length_cons] at length
    calc
      (10 : ℚ) ^ (signedBound - 1) = 10 ^ ((signedBound : Int) - 1) := by
        rw [← zpow_natCast]
        congr 1
      _ ≤ 10 ^ (rest.length - l.places) := zpow_le_zpow_right₀ (by decide) (by omega)
      _ = 10 ^ rest.length * 10 ^ (-l.places) := by
        rw [sub_eq_add_neg, zpow_add₀ (by decide), zpow_natCast]
      _ ≤ |l.value| := by
        rw [absolute]
        exact mul_le_mul_of_nonneg_right size power

/-- No decimal has the value of an overlong literal. -/
theorem Overlong.value_ne {l : Literal} (long : l.Overlong) (proper : l.Proper) (d : Decimal) :
    d.value ≠ l.value := by
  intro same
  have reached := long.le_value proper
  have places : (1 : ℚ) ≤ 10 ^ d.scale := one_le_pow₀ (by norm_num)
  have room : (10 : ℚ) ^ 29 ≤ 10 ^ (signedBound - 1) := pow_le_pow_right₀ (by norm_num) (by decide)
  have bounded := d.abs_coefficient_lt
  have below : |d.value| ≤ |(d.coefficient : ℚ)| := by
    rw [Decimal.value, abs_div, abs_of_nonneg (zero_le_one.trans places)]
    exact div_le_self (abs_nonneg _) places
  have few : (Decimal.coefficientBound : ℚ) < 10 ^ 29 := by norm_num [Decimal.coefficientBound]
  rw [same] at below
  linarith

end Literal
end RecordDirectory
