import Mathlib.Algebra.Order.Field.Rat
import Mathlib.Algebra.Order.Ring.Abs
import Mathlib.Tactic.FieldSimp
import Mathlib.Tactic.Ring
import RecordDirectory.Proofs.Decimal.Grammar

namespace RecordDirectory

/-!
# The value of a literal

A literal denotes a rational number: its digits, with a point among them, times the power of ten that its
exponent says.  What is converted has this value, so that nothing is ever rounded.  The scale is as many
places as the literal has, within the bounds of a scale, and zero has none.

The conversion works on digits and not on values.  It drops zeros at the end only to bring the scale down to
its bound, and so it has one scale in mind for every literal; where the value needs another one, it is
refused (`Decimal.exists_ofLiteral_iff`).
-/

/-- Zeros behind digits multiply what the digits stand for. -/
theorem Numeral.value_append_zeros (digits : List Char) (n : Nat) :
    value (digits ++ List.replicate n '0') = tenTo n * value digits := by
  rw [value, Nat.ofDigitChars_append, Nat.ofDigitChars_replicate_zero]
  rfl

/-- Digits that do not end with zero stand for no multiple of ten. -/
theorem Numeral.not_ten_dvd_value {digits : List Char} (nonempty : digits ≠ [])
    (each : digits.all Char.isDigit = true) (last : digits.getLast? ≠ some '0') : ¬ 10 ∣ value digits := by
  rcases List.eq_nil_or_concat' digits with empty | ⟨front, c, rfl⟩
  · exact absurd empty nonempty
  · rw [List.all_append, Bool.and_eq_true, List.all_cons, Bool.and_eq_true] at each
    have bounds := Char.isDigit_iff_toNat.mp each.2.1
    have different : c.toNat ≠ '0'.toNat := fun same => last (by simp [Char.toNat_inj.mp same])
    have split : value (front ++ [c]) = 10 * value front + (c.toNat - '0'.toNat) := by
      rw [value, Nat.ofDigitChars_append, Nat.ofDigitChars_cons, Nat.ofDigitChars_nil]
      rfl
    have zeroCode : '0'.toNat = 48 := rfl
    have nineCode : '9'.toNat = 57 := rfl
    rw [split]
    omega

/-- The number that a decimal stands for. -/
def Decimal.value (d : Decimal) : ℚ :=
  d.coefficient / 10 ^ d.scale

namespace Literal

/-- The digits before the point, and those behind it as a fraction. -/
def size (l : Literal) : ℚ :=
  Numeral.value l.whole + Numeral.value l.fraction / 10 ^ l.fraction.length

/-- A number with a sign. -/
def signed (negative : Bool) (size : ℚ) : ℚ :=
  if negative then -size else size

/-- The number that a literal denotes. -/
def value (l : Literal) : ℚ :=
  signed l.negative (l.size * 10 ^ l.exponent)

/-- The places of a literal, within the bounds of a scale. -/
def scale (l : Literal) : Int :=
  min Decimal.greatestScale (max 0 l.places)

theorem signed_eq_zero_iff {negative : Bool} {size : ℚ} : signed negative size = 0 ↔ size = 0 := by
  cases negative <;> simp [signed]

theorem abs_signed (negative : Bool) (size : ℚ) : |signed negative size| = |size| := by
  cases negative <;> simp [signed]

theorem cast_tenTo (n : Nat) : (tenTo n : ℚ) = 10 ^ n := by
  exact_mod_cast rfl

/-- Moving the point behind the last digit leaves the digits and a power of ten. -/
theorem value_eq (l : Literal) :
    l.value = signed l.negative (Numeral.value l.digits * 10 ^ (-l.places)) := by
  have joined : (Numeral.value l.digits : ℚ) =
      10 ^ l.fraction.length * Numeral.value l.whole + Numeral.value l.fraction := by
    rw [digits, Numeral.value_dropWhile_zero, Numeral.value, Nat.ofDigitChars_append,
      Nat.ofDigitChars_eq_ofDigitChars_zero]
    push_cast
    rfl
  have power : (10 : ℚ) ^ (-l.places) = 10 ^ l.exponent / 10 ^ l.fraction.length := by
    rw [places, neg_sub, zpow_sub₀ (by decide), zpow_natCast]
  have nonzero : (10 : ℚ) ^ l.fraction.length ≠ 0 := pow_ne_zero _ (by decide)
  rw [value, size, joined, power]
  congr 1
  field_simp

/-- The same literal with more zeros behind its digits. -/
def padded (l : Literal) (n : Nat) : Literal :=
  { l with fraction := l.fraction ++ List.replicate n '0' }

/-- Zeros behind the last place change nothing about the value. -/
theorem value_padded (l : Literal) (n : Nat) : (l.padded n).value = l.value := by
  have size : (l.padded n).size = l.size := by
    have nonzero : (10 : ℚ) ^ n ≠ 0 := pow_ne_zero _ (by decide)
    have nonzeroLength : (10 : ℚ) ^ l.fraction.length ≠ 0 := pow_ne_zero _ (by decide)
    rw [Literal.size, Literal.size, padded, List.length_append, List.length_replicate, Numeral.value_append_zeros,
      Nat.cast_mul, cast_tenTo, pow_add]
    field_simp
  rw [value, value, size]
  rfl

/-- Only a literal without digits other than zero denotes zero. -/
theorem value_eq_zero_iff {l : Literal} (proper : l.Proper) : l.value = 0 ↔ l.digits = [] := by
  have power : (10 : ℚ) ^ (-l.places) ≠ 0 := zpow_ne_zero _ (by decide)
  rw [value_eq, signed_eq_zero_iff, mul_eq_zero, or_iff_left power, Nat.cast_eq_zero]
  constructor
  · intro zero
    rcases Numeral.dropWhile_zero_cases proper with empty | ⟨c, rest, starts, digit, nonzero⟩
    · exact empty
    · have reached := Numeral.tenTo_le_value digit nonzero rest
      rw [← starts, ← digits, zero] at reached
      exact absurd (tenTo_pos rest.length) (by omega)
  · intro empty
    rw [empty]
    rfl

/-! ## Zeros at the end -/

/-- What is dropped is zeros, each of them for one place, until the scale is within its bound or there are no
more zeros. -/
theorem dropZeros_spec (reversed : List Char) (scale : Int) :
    ∃ n : Nat, reversed = List.replicate n '0' ++ (dropZeros reversed scale).1 ∧
      scale = (dropZeros reversed scale).2 + n ∧
      min (Decimal.greatestScale : Int) scale ≤ (dropZeros reversed scale).2 ∧
      (Decimal.greatestScale < (dropZeros reversed scale).2 → (dropZeros reversed scale).1.head? ≠ some '0') := by
  induction reversed generalizing scale with
  | nil => exact ⟨0, rfl, by simp [dropZeros], by simp [dropZeros], by simp [dropZeros]⟩
  | cons c rest inductionHypothesis =>
      rw [dropZeros]
      split
      · next drops =>
        rcases inductionHypothesis (scale - 1) with ⟨n, split, shifted, least, full⟩
        refine ⟨n + 1, ?_, ?_, ?_, full⟩
        · rw [drops.2, List.replicate_succ, List.cons_append, ← split]
        · omega
        · omega
      · next keeps =>
        refine ⟨0, rfl, by simp, by simp, fun full same => keeps ⟨full, ?_⟩⟩
        simpa using same

/-- Digits with fewer zeros at the end, and the scale that goes with them. -/
structure Shortened (digits : List Char) (places : Int) (kept : List Char) (scale : Int) : Prop where
  split : ∃ n : Nat, digits = kept ++ List.replicate n '0' ∧ places = scale + n
  least : min (Decimal.greatestScale : Int) places ≤ scale
  full : Decimal.greatestScale < scale → kept.getLast? ≠ some '0'

theorem shortened (digits : List Char) (places : Int) :
    Shortened digits places (dropZeros digits.reverse places).1.reverse (dropZeros digits.reverse places).2 := by
  rcases dropZeros_spec digits.reverse places with ⟨n, split, shifted, least, full⟩
  refine ⟨⟨n, ?_, shifted⟩, least, ?_⟩
  · have same := congrArg List.reverse split
    rwa [List.reverse_reverse, List.reverse_append, List.reverse_replicate] at same
  · rwa [List.getLast?_reverse]

namespace Shortened

variable {digits kept : List Char} {places scale : Int}

theorem value_eq (short : Shortened digits places kept scale) :
    (Numeral.value digits : ℚ) * 10 ^ (-places) = Numeral.value kept * 10 ^ (-scale) := by
  rcases short.split with ⟨n, rfl, rfl⟩
  have power : (10 : ℚ) ^ (-(scale + n)) = 10 ^ (-scale) / 10 ^ n := by
    rw [neg_add', zpow_sub₀ (by decide), zpow_natCast]
  rw [Numeral.value_append_zeros, power, Nat.cast_mul, cast_tenTo]
  field_simp

/-- The scale is that of the literal, unless even all zeros at the end are too few. -/
theorem scale_eq (short : Shortened digits places kept scale) (room : scale ≤ Decimal.greatestScale) :
    (scale.toNat : Int) = min (Decimal.greatestScale : Int) (max 0 places) := by
  rcases short with ⟨⟨n, _, rfl⟩, least, _⟩
  omega

end Shortened

/-! ## Conversion -/

/-- The coefficient of digits that have a scale, which is written out where it is negative. -/
def coefficient (negative : Bool) (digits : List Char) (scale : Int) : Int :=
  let size : Int := Numeral.value digits * tenTo (-scale).toNat
  if negative then -size else size

theorem coefficient_div (negative : Bool) (digits : List Char) (scale : Int) :
    (coefficient negative digits scale : ℚ) / 10 ^ scale.toNat =
      signed negative (Numeral.value digits * 10 ^ (-scale)) := by
  have power : (10 : ℚ) ^ (-scale) = 10 ^ (-scale).toNat / 10 ^ scale.toNat := by
    rw [← zpow_natCast, ← zpow_natCast, ← zpow_sub₀ (by decide)]
    congr 1
    omega
  rw [power]
  cases negative <;> simp [coefficient, signed, cast_tenTo] <;> ring

/-- A conversion ends with a decimal where the kept digits are few enough and the coefficient is in range. -/
theorem convert_eq_ok_iff {negative : Bool} {digits reversed : List Char} {places scale : Int} {d : Decimal}
    (dropped : dropZeros digits.reverse places = (reversed, scale)) :
    convert negative digits places = .ok d ↔
      scale ≤ Decimal.greatestScale ∧ Numeral.fitsSigned64 (reversed.length - min scale 0) = true ∧
        reversed.length - min scale 0 ≤ greatestLength ∧
        d.coefficient = coefficient negative reversed.reverse scale ∧ d.scale = scale.toNat := by
  rw [← Decimal.ofParts?_eq_some_iff]
  unfold convert
  rw [dropped]
  dsimp only
  constructor
  · intro converted
    split at converted
    · cases converted
    · next room =>
      split at converted
      · cases converted
      · next fits =>
        split at converted
        · cases converted
        · next few =>
          split at converted
          · next found parts =>
            cases converted
            exact ⟨Int.not_lt.mp room, not_not.mp fits, Int.not_lt.mp few, parts⟩
          · cases converted
  · rintro ⟨room, fits, few, parts⟩
    rw [coefficient] at parts
    rw [if_neg (Int.not_lt.mpr room), if_neg (not_not_intro fits), if_neg (Int.not_lt.mpr few), parts]

/-- What is converted has the value of its digits, and as many places as they have, within the bounds. -/
theorem value_of_convert {negative : Bool} {digits : List Char} {places : Int} {d : Decimal}
    (converted : convert negative digits places = .ok d) :
    (d.scale : Int) = min (Decimal.greatestScale : Int) (max 0 places) ∧
      d.value = signed negative (Numeral.value digits * 10 ^ (-places)) := by
  have short := shortened digits places
  rcases dropped : dropZeros digits.reverse places with ⟨reversed, scale⟩
  rw [dropped] at short
  rcases (convert_eq_ok_iff dropped).mp converted with ⟨room, _, _, coefficient, sameScale⟩
  constructor
  · rw [sameScale, short.scale_eq room]
  · rw [Decimal.value, coefficient, sameScale, coefficient_div, short.value_eq]

/-- Two ways to write one value, without fractions. -/
theorem coefficient_mul_tenTo {d : Decimal} {negative : Bool} {n : Nat} {scale : Int}
    (same : d.value = signed negative (n * 10 ^ (-scale))) :
    d.coefficient * tenTo (scale - d.scale).toNat =
      if negative then -(n * tenTo (d.scale - scale).toNat : Int) else n * tenTo (d.scale - scale).toNat := by
  have power : (10 : ℚ) ^ (-scale) * 10 ^ d.scale * 10 ^ (scale - d.scale).toNat =
      10 ^ (d.scale - scale).toNat := by
    rw [← zpow_natCast, ← zpow_natCast, ← zpow_natCast, ← zpow_add₀ (by decide), ← zpow_add₀ (by decide)]
    congr 1
    omega
  have nonzero : (10 : ℚ) ^ d.scale ≠ 0 := pow_ne_zero _ (by decide)
  rw [Decimal.value, div_eq_iff nonzero] at same
  have cast : ((d.coefficient * tenTo (scale - d.scale).toNat : Int) : ℚ) =
      signed negative (n * 10 ^ (d.scale - scale).toNat) := by
    rw [Int.cast_mul, Int.cast_natCast, cast_tenTo, same, ← power]
    cases negative <;> simp only [signed, if_true, Bool.false_eq_true, if_false] <;> ring
  have exact : (((if negative then -(n * tenTo (d.scale - scale).toNat : Int)
      else n * tenTo (d.scale - scale).toNat : Int)) : ℚ) =
      signed negative (n * 10 ^ (d.scale - scale).toNat) := by
    cases negative <;> simp [signed, cast_tenTo]
  exact_mod_cast cast.trans exact.symm

/-- The digits that are kept start with the same digit. -/
theorem Shortened.starts {c : Char} {rest reversed : List Char} {places scale : Int} (nonzero : c ≠ '0')
    (dropped : dropZeros (c :: rest).reverse places = (reversed, scale)) :
    ∃ later, reversed.reverse = c :: later := by
  rcases dropZeros_append nonzero rest.reverse places with ⟨later, kept⟩
  rw [List.reverse_cons] at dropped
  rw [dropped] at kept
  exact ⟨later.reverse, by simp [show reversed = later ++ [c] from kept]⟩

/-- A decimal of the same value leaves no digit behind the greatest scale: the last one that is kept would not be
zero, but the others would have to be a multiple of ten. -/
theorem Shortened.scale_le {negative : Bool} {digits kept : List Char} {places scale : Int} {d : Decimal}
    (short : Shortened digits places kept scale) (present : kept ≠ []) (each : kept.all Char.isDigit = true)
    (scaled : (d.scale : Int) = min (Decimal.greatestScale : Int) (max 0 places))
    (same : d.value = signed negative (Numeral.value kept * 10 ^ (-scale))) : scale ≤ Decimal.greatestScale := by
  by_contra beyond
  have excess := Int.not_le.mp beyond
  have indivisible := Numeral.not_ten_dvd_value present each (short.full excess)
  have exactScale : (d.scale : Int) = Decimal.greatestScale := by
    rcases short.split with ⟨n, _, rfl⟩
    omega
  have written := coefficient_mul_tenTo same
  rcases Nat.exists_eq_add_one_of_ne_zero (n := (scale - d.scale).toNat) (by omega) with ⟨k, shifted⟩
  have unshifted : (d.scale - scale).toNat = 0 := by omega
  rw [shifted, unshifted, tenTo_succ, tenTo_zero, Nat.mul_comm, Int.natCast_mul, Int.mul_left_comm] at written
  rw [Int.natCast_one, Int.mul_one] at written
  have multiple : ((10 : Nat) : Int) ∣ if negative then -(Numeral.value kept : Int) else Numeral.value kept :=
    ⟨_, written.symm⟩
  refine indivisible (Int.natCast_dvd_natCast.mp ?_)
  cases negative with
  | false => exact multiple
  | true => exact Int.dvd_neg.mp multiple

/-- The digits of a decimal are few enough when they are written out. -/
theorem length_le_of_coefficient {negative : Bool} {c : Char} {later : List Char} {scale : Int} {d : Decimal}
    (digit : c.isDigit = true) (nonzero : c ≠ '0')
    (same : d.coefficient = coefficient negative (c :: later) scale) :
    ((c :: later).length : Int) - min scale 0 ≤ greatestLength := by
  have padded : Numeral.value (c :: (later ++ List.replicate (-scale).toNat '0')) < Decimal.coefficientBound := by
    rw [← List.cons_append, Numeral.value_append_zeros]
    have bounded := d.coefficient_lt
    rw [same, coefficient] at bounded
    cases negative <;> simpa [Int.natAbs_mul, Nat.mul_comm] using bounded
  have length := length_le_of_fits digit nonzero padded
  rw [List.length_cons, List.length_append, List.length_replicate] at length
  rw [List.length_cons]
  omega

/-- Where there is a decimal of that scale and value, the conversion ends with it. -/
theorem convert_of_value {negative : Bool} {c : Char} {rest : List Char} {places : Int} {d : Decimal}
    (each : (c :: rest).all Char.isDigit = true) (nonzero : c ≠ '0')
    (scaled : (d.scale : Int) = min (Decimal.greatestScale : Int) (max 0 places))
    (same : d.value = signed negative (Numeral.value (c :: rest) * 10 ^ (-places))) :
    convert negative (c :: rest) places = .ok d := by
  have short := shortened (c :: rest) places
  rcases dropped : dropZeros (c :: rest).reverse places with ⟨reversed, scale⟩
  rw [dropped] at short
  dsimp only at short
  rcases Shortened.starts nonzero dropped with ⟨later, starts⟩
  rw [starts] at short
  rw [short.value_eq] at same
  have keptDigits : (c :: later).all Char.isDigit = true := by
    rcases short.split with ⟨n, split, _⟩
    rw [split, List.all_append, Bool.and_eq_true] at each
    exact each.1
  have room := short.scale_le (List.cons_ne_nil c later) keptDigits scaled same
  have exactScale : d.scale = scale.toNat := by
    have kept := short.scale_eq room
    omega
  have exactCoefficient : d.coefficient = coefficient negative (c :: later) scale := by
    have written := coefficient_mul_tenTo same
    have unshifted : (scale - d.scale).toNat = 0 := by omega
    have shifted : (d.scale - scale).toNat = (-scale).toNat := by omega
    rw [unshifted, shifted, tenTo_zero, Int.natCast_one, Int.mul_one] at written
    exact written
  rw [List.all_cons, Bool.and_eq_true] at each
  have few := length_le_of_coefficient each.1 nonzero exactCoefficient
  rw [← starts, List.length_reverse] at few
  have fits : Numeral.fitsSigned64 (reversed.length - min scale 0) = true := by
    rw [Numeral.fitsSigned64_iff]
    unfold greatestLength at few
    unfold signedBound
    omega
  exact (convert_eq_ok_iff dropped).mpr ⟨room, fits, few, starts ▸ exactCoefficient, exactScale⟩

/-! ## Literals -/

/-- A literal has digits other than zero, or it denotes zero. -/
theorem digits_cases {l : Literal} (proper : l.Proper) :
    (l.digits = [] ∧ l.value = 0) ∨
      ∃ c rest, l.digits = c :: rest ∧ l.value ≠ 0 ∧ c ≠ '0' ∧ (c :: rest).all Char.isDigit = true := by
  rcases Numeral.dropWhile_zero_cases proper with empty | ⟨c, rest, starts, _, nonzero⟩
  · exact .inl ⟨empty, (value_eq_zero_iff proper).mpr empty⟩
  · refine .inr ⟨c, rest, starts, fun zero => ?_, nonzero, ?_⟩
    · have empty := (value_eq_zero_iff proper).mp zero
      rw [digits, starts] at empty
      cases empty
    · rw [List.all_eq_true, ← starts]
      exact fun digit listed => List.all_eq_true.mp proper digit ((List.dropWhile_sublist _).mem listed)

/-- A decimal is exactly what a literal denotes, with the scale that the conversion gives it. -/
structure Holds (l : Literal) (d : Decimal) : Prop where
  value : d.value = l.value
  zero : l.value = 0 → d = .zero
  scale : l.value ≠ 0 → (d.scale : Int) = l.scale

theorem holds_zero {l : Literal} (zero : l.value = 0) : l.Holds .zero where
  value := by
    rw [zero, Decimal.value, Decimal.zero]
    simp
  zero := fun _ => rfl
  scale := fun different => absurd zero different

theorem exact_eq_ok_iff {l : Literal} (proper : l.Proper) {d : Decimal} :
    l.exact = .ok d ↔ Numeral.fitsSigned64 l.exponent = true ∧
      (l.value ≠ 0 → Numeral.fitsSigned64 l.places = true) ∧ l.Holds d := by
  unfold exact
  cases Numeral.fitsSigned64 l.exponent with
  | false => simp
  | true =>
      rw [if_neg (not_not_intro rfl)]
      rcases digits_cases proper with ⟨empty, zero⟩ | ⟨c, rest, starts, notZero, nonzero, each⟩
      · rw [if_pos (by rw [empty]; rfl)]
        constructor
        · rintro ⟨⟩
          exact ⟨rfl, fun different => absurd zero different, holds_zero zero⟩
        · rintro ⟨_, _, holds⟩
          rw [holds.zero zero]
      · rw [if_neg (by rw [starts]; exact Bool.false_ne_true)]
        cases fits : Numeral.fitsSigned64 l.places with
        | false => simp [notZero]
        | true =>
            rw [if_neg (not_not_intro rfl), starts]
            have value := value_eq l
            rw [starts] at value
            constructor
            · intro converted
              rcases value_of_convert converted with ⟨scaled, same⟩
              exact ⟨rfl, fun _ => rfl, same.trans value.symm, fun zero => absurd zero notZero, fun _ => scaled⟩
            · rintro ⟨_, _, holds⟩
              exact convert_of_value each nonzero (holds.scale notZero) (holds.value.trans value)

theorem Spells.proper {l : Literal} {text : List Char} (spelled : l.Spells text) : l.Proper :=
  proper_of_read? (read?_eq_some_iff.mpr spelled)

end Literal

namespace Decimal

open Literal

/-- The conversion of a text is that of its literal. -/
theorem ofLiteral_of_spells {l : Literal} {text : List Char} (spelled : l.Spells text) :
    ofLiteral text = l.exact := by
  rw [ofLiteral, read?_eq_some_iff.mpr spelled]

/-- A text that is converted is a literal, and the decimal is what it denotes. -/
theorem holds_of_ofLiteral {text : List Char} {d : Decimal} (converted : ofLiteral text = .ok d) :
    ∃ l : Literal, l.Spells text ∧ l.Holds d := by
  cases read : Literal.read? text with
  | none =>
      rw [ofLiteral, read] at converted
      cases converted
  | some l =>
      have spelled := read?_eq_some_iff.mp read
      rw [ofLiteral_of_spells spelled] at converted
      exact ⟨l, spelled, ((exact_eq_ok_iff spelled.proper).mp converted).2.2⟩

/-- One zero is dropped to bring twenty-nine places down to twenty-eight, and the other one is kept. -/
theorem holds_of_padded_literal :
    ofLiteral "-007.100e-26".toList = .ok ⟨-710, 28, by decide, by decide⟩ ∧
      ∃ l : Literal, l.Spells "-007.100e-26".toList ∧ l.Holds ⟨-710, 28, by decide, by decide⟩ := by
  have converted : ofLiteral "-007.100e-26".toList = .ok ⟨-710, 28, by decide, by decide⟩ := by decide +kernel
  exact ⟨converted, holds_of_ofLiteral converted⟩

/-! ## What is refused -/

theorem value_mul_pow (d : Decimal) : d.value * 10 ^ d.scale = d.coefficient := by
  rw [value, div_mul_cancel₀ _ (pow_ne_zero _ (by decide))]

theorem abs_coefficient_lt (d : Decimal) : |(d.coefficient : ℚ)| < coefficientBound := by
  have bounded : |d.coefficient| < coefficientBound := by
    rw [Int.abs_eq_natAbs]
    exact Int.ofNat_lt.mpr d.coefficient_lt
  exact_mod_cast bounded

/-- A value that some decimal has is a whole number at the scale of its literal. -/
theorem exists_coefficient {l : Literal} {d : Decimal} (same : d.value = l.value) :
    ∃ coefficient : Int, (coefficient : ℚ) = l.value * 10 ^ l.scale := by
  rcases lt_or_ge l.scale l.places with beyond | enough
  · -- The scale is the greatest one, and so no decimal has more places.
    have greatest : l.scale = greatestScale := by
      unfold Literal.scale at beyond ⊢
      omega
    have power : (10 : ℚ) ^ l.scale = 10 ^ d.scale * 10 ^ (greatestScale - d.scale) := by
      rw [greatest, zpow_natCast, ← pow_add, Nat.add_sub_cancel' d.scale_le]
    refine ⟨d.coefficient * tenTo (greatestScale - d.scale), ?_⟩
    rw [← same, power, ← mul_assoc, value_mul_pow, Int.cast_mul, Int.cast_natCast, cast_tenTo]
  · -- No digit of the literal stands behind the last place.
    have power : (10 : ℚ) ^ (l.scale - l.places).toNat = 10 ^ (-l.places) * 10 ^ l.scale := by
      rw [← zpow_natCast, ← zpow_add₀ (by decide)]
      congr 1
      omega
    refine ⟨if l.negative then -(Numeral.value l.digits * tenTo (l.scale - l.places).toNat)
      else Numeral.value l.digits * tenTo (l.scale - l.places).toNat, ?_⟩
    rw [value_eq]
    cases l.negative <;> simp [signed, cast_tenTo, power, mul_assoc]

/-- Where a decimal has the value of a literal, there is one with the scale of the literal, if its coefficient is
in range. -/
theorem exists_holds {l : Literal} (exact : ∃ d : Decimal, d.value = l.value) (notZero : l.value ≠ 0)
    (bounded : |l.value| * 10 ^ l.scale < coefficientBound) : ∃ d, l.Holds d := by
  rcases exact with ⟨other, same⟩
  rcases exists_coefficient same with ⟨coefficient, whole⟩
  have scaled : ((l.scale.toNat : Nat) : Int) = l.scale := by
    unfold Literal.scale
    omega
  have room : l.scale.toNat ≤ greatestScale := by
    unfold Literal.scale
    omega
  rw [← scaled, zpow_natCast] at whole bounded
  have nonnegative : (0 : ℚ) ≤ 10 ^ l.scale.toNat := pow_nonneg (by decide) _
  rw [← abs_of_nonneg nonnegative, ← abs_mul, ← whole] at bounded
  have fits : coefficient.natAbs < coefficientBound := by
    rw [← Int.ofNat_lt, ← Int.abs_eq_natAbs]
    exact_mod_cast bounded
  refine ⟨⟨coefficient, l.scale.toNat, fits, room⟩, ?_, fun zero => absurd zero notZero, fun _ => scaled⟩
  rw [value, whole, mul_div_cancel_right₀ _ (pow_ne_zero _ (by decide))]

/-- A literal whose value a decimal can have is converted, unless its exponent or the number of its places is
beyond 64 bits, or its coefficient is too large at the one scale that it is tried with. -/
theorem exists_ofLiteral_iff {text : List Char} {l : Literal} (spelled : l.Spells text)
    (exact : ∃ d : Decimal, d.value = l.value) :
    (∃ d, ofLiteral text = .ok d) ↔ Numeral.fitsSigned64 l.exponent = true ∧
      (l.value ≠ 0 → Numeral.fitsSigned64 l.places = true ∧ |l.value| * 10 ^ l.scale < coefficientBound) := by
  rw [ofLiteral_of_spells spelled]
  simp only [exact_eq_ok_iff spelled.proper]
  constructor
  · rintro ⟨d, exponent, places, holds⟩
    refine ⟨exponent, fun notZero => ⟨places notZero, ?_⟩⟩
    have nonnegative : (0 : ℚ) ≤ 10 ^ d.scale := pow_nonneg (by decide) _
    rw [← holds.scale notZero, zpow_natCast, ← holds.value, ← abs_of_nonneg nonnegative, ← abs_mul, value_mul_pow]
    exact d.abs_coefficient_lt
  · rintro ⟨exponent, rest⟩
    by_cases zero : l.value = 0
    · exact ⟨.zero, exponent, fun notZero => absurd zero notZero, holds_zero zero⟩
    · rcases rest zero with ⟨places, bounded⟩
      rcases exists_holds exact zero bounded with ⟨d, holds⟩
      exact ⟨d, exponent, fun _ => places, holds⟩

/-- A literal with one place more than its value needs, which its coefficient has room for. -/
theorem exists_ofLiteral_iff_of_spare_place :
    ∃ l : Literal, l.Spells "12.50".toList ∧ (∃ d : Decimal, d.value = l.value) ∧
      ((∃ d, ofLiteral "12.50".toList = .ok d) ↔ Numeral.fitsSigned64 l.exponent = true ∧
        (l.value ≠ 0 → Numeral.fitsSigned64 l.places = true ∧ |l.value| * 10 ^ l.scale < coefficientBound)) := by
  let l : Literal := (⟨false, ['1', '2'], ['5'], 0⟩ : Literal).padded 1
  have spelled : l.Spells "12.50".toList := read?_eq_some_iff.mp (by decide +kernel)
  have exact : ∃ d : Decimal, d.value = l.value := by
    refine ⟨⟨125, 1, by decide, by decide⟩, ?_⟩
    have whole : Numeral.value ['1', '2'] = 12 := rfl
    have fraction : Numeral.value ['5'] = 5 := rfl
    rw [value_padded, Literal.value, Literal.size, whole, fraction, Decimal.value]
    norm_num [signed]
  exact ⟨l, spelled, exact, exists_ofLiteral_iff spelled exact⟩

/-- The greatest coefficient is converted, but not with a zero behind its point, and zero is not converted
where its exponent is beyond 64 bits. -/
theorem refused_without_rounding :
    (∃ (l : Literal) (d : Decimal), l.Spells "79228162514264337593543950335".toList ∧
      ofLiteral "79228162514264337593543950335".toList = .ok d ∧
      (l.padded 1).Spells "79228162514264337593543950335.0".toList ∧ d.value = (l.padded 1).value ∧
      ofLiteral "79228162514264337593543950335.0".toList = .error .inexact) ∧
    ∃ l : Literal, l.Spells "0e9223372036854775808".toList ∧ zero.value = l.value ∧
      ofLiteral "0e9223372036854775808".toList = .error .inexact := by
  constructor
  · let l : Literal := ⟨false, "79228162514264337593543950335".toList, [], 0⟩
    let greatest : Decimal := ⟨79228162514264337593543950335, 0, by decide, by decide⟩
    have spelled : l.Spells "79228162514264337593543950335".toList := read?_eq_some_iff.mp (by decide +kernel)
    have converted : l.exact = .ok greatest := by decide +kernel
    have holds := ((exact_eq_ok_iff spelled.proper).mp converted).2.2
    refine ⟨l, greatest, spelled, ?_, read?_eq_some_iff.mp (by decide +kernel), ?_, by decide +kernel⟩
    · rw [ofLiteral_of_spells spelled, converted]
    · rw [value_padded, holds.value]
  · let l : Literal := ⟨false, ['0'], [], 9223372036854775808⟩
    have spelled : l.Spells "0e9223372036854775808".toList := read?_eq_some_iff.mp (by decide +kernel)
    refine ⟨l, spelled, ?_, by decide +kernel⟩
    rw [(value_eq_zero_iff spelled.proper).mpr (by decide +kernel), value, zero, Int.cast_zero, zero_div]

end Decimal
end RecordDirectory
