import Mathlib.Data.Nat.Digits.Defs
import RecordDirectory.Binary64.Shortest
import RecordDirectory.Proofs.Binary64.Finite
import RecordDirectory.Proofs.Decimal.Overflow

namespace RecordDirectory

/-!
# The texts of binary numbers

The text of a binary number is a decimal literal.  It has at most sixteen digits before the point, or a single
one and the exponent of this digit.  So it is never overlong, although the conversion of literals has no answer
for some texts.

The bounds of the exponent and of the number of digits come from the range of the binary exponents.  They are
far from the least ones that hold, and far below what 64 bits can count.
-/

theorem twoTo_add (m n : Nat) : twoTo (m + n) = twoTo m * twoTo n :=
  Nat.pow_add 2 m n

theorem twoTo_le_twoTo {m n : Nat} (less : m ≤ n) : twoTo m ≤ twoTo n :=
  Nat.pow_le_pow_right (by decide) less

theorem tenTo_le_tenTo {m n : Nat} (less : m ≤ n) : tenTo m ≤ tenTo n :=
  Nat.pow_le_pow_right (by decide) less

theorem twoTo_le_tenTo (n : Nat) : twoTo n ≤ tenTo n :=
  Nat.pow_le_pow_left (by decide) n

theorem log2_lt_of_lt_twoTo {n k : Nat} (positive : 0 < k) (small : n < twoTo k) : n.log2 < k := by
  rcases Nat.eq_zero_or_pos n with rfl | present
  · exact positive
  · exact (Nat.log2_lt (Nat.ne_of_gt present)).mpr small

theorem Numeral.length_write_le {n k : Nat} (positive : 0 < k) (small : n < tenTo k) : (write n).length ≤ k :=
  Nat.toDigits_length 10 n k positive small

theorem Literal.isNumber_write (n : Nat) : IsNumber (Numeral.write n) :=
  ⟨Numeral.write_ne_nil n, List.all_eq_true.mpr fun _ listed => Numeral.isDigit_of_mem_write listed⟩

namespace Binary64

/-! ## The digits and the exponent of the shortest decimal -/

theorem settle_bounds (reaches : Int → Bool) (fuel : Nat) (e : Int) :
    e - fuel ≤ floorLog10.settle reaches fuel e ∧ floorLog10.settle reaches fuel e ≤ e + fuel := by
  induction fuel generalizing e with
  | zero => simp [floorLog10.settle]
  | succ fuel inductionHypothesis =>
      have above := inductionHypothesis (e + 1)
      have below := inductionHypothesis (e - 1)
      unfold floorLog10.settle
      split
      · omega
      · split <;> omega

/-- The leading exponent is not far from the binary ones. -/
theorem floorLog10_bounds (num den : Nat) :
    -(den.log2 : Int) - 5 ≤ floorLog10 num den ∧ floorLog10 num den ≤ num.log2 + 4 := by
  unfold floorLog10
  dsimp only
  have steps := settle_bounds (fun e => decide (den * tenTo e.toNat ≤ num * tenTo (-e).toNat)) 4
    (((num.log2 : Int) - (den.log2 : Int)) * 30103 / 100000)
  omega

/-- A decimal with few digits and no great exponent. -/
structure ShortDecimal.Small (length : Nat) (greatest : Int) (d : ShortDecimal) : Prop where
  digits : d.digits < tenTo length
  exponent : d.exponent ≤ greatest

theorem ShortDecimal.Small.stripZeros {length : Nat} {greatest : Int} {d : ShortDecimal}
    (small : d.Small length greatest) (fuel : Nat) : (d.stripZeros fuel).Small length (greatest + fuel) := by
  induction fuel generalizing d greatest with
  | zero => simpa [ShortDecimal.stripZeros] using small
  | succ fuel inductionHypothesis =>
      have exponent := small.exponent
      unfold ShortDecimal.stripZeros
      split
      · have fewer : (⟨d.digits / 10, d.exponent + 1⟩ : ShortDecimal).Small length (greatest + 1) :=
          ⟨Nat.lt_of_le_of_lt (Nat.div_le_self _ _) small.digits, by dsimp only; omega⟩
        have stripped := inductionHypothesis fewer
        exact ⟨stripped.digits, by have := stripped.exponent; omega⟩
      · exact ⟨small.digits, by omega⟩

/-- A point of a grid next to a value has no more digits than the value and the grid have. -/
theorem Interval.lt_of_nearestOn? {i : Interval} {exponent : Int} {digits m n : Nat}
    (found : i.nearestOn? exponent = some digits) (value : i.value < tenTo m) (grid : -exponent ≤ n) :
    digits < tenTo (m + n + 1) := by
  have power : tenTo (-exponent).toNat ≤ tenTo n := tenTo_le_tenTo (by omega)
  have near : digits ≤ i.value * tenTo (-exponent).toNat / (i.denominator * tenTo exponent.toNat) + 1 := by
    unfold nearestOn? at found
    dsimp only at found
    split at found
    · cases found
      split
      · omega
      · split
        · omega
        · split <;> omega
    · cases found
      omega
    · cases found
      omega
    · cases found
  have quotient := Nat.div_le_self (i.value * tenTo (-exponent).toNat) (i.denominator * tenTo exponent.toNat)
  have product : i.value * tenTo (-exponent).toNat ≤ tenTo (m + n) := by
    rw [tenTo_add]
    exact Nat.mul_le_mul (Nat.le_of_lt value) power
  have positive := tenTo_pos (m + n)
  rw [tenTo_succ]
  omega

theorem Interval.small_firstOn {i : Interval} {lead greatest : Int} {m n : Nat} (value : i.value < tenTo m)
    (low : 16 - lead ≤ n) (high : lead + 21 ≤ greatest) (nonnegative : 0 ≤ greatest) {counts : List Nat}
    (few : ∀ count ∈ counts, count ≤ 17) : (i.firstOn lead counts).Small (m + n + 1) greatest := by
  induction counts with
  | nil =>
      refine ⟨?_, nonnegative⟩
      calc
        i.value / i.denominator ≤ i.value := Nat.div_le_self _ _
        _ < tenTo m := value
        _ ≤ tenTo (m + n + 1) := tenTo_le_tenTo (by omega)
  | cons count rest inductionHypothesis =>
      have bound := few count List.mem_cons_self
      unfold Interval.firstOn
      dsimp only
      split
      · next digits found =>
        have small : (⟨digits, lead - (count : Int) + 1⟩ : ShortDecimal).Small (m + n + 1) (lead + 1) :=
          ⟨lt_of_nearestOn? found value (by omega), by dsimp only; omega⟩
        have stripped := small.stripZeros 20
        exact ⟨stripped.digits, by have := stripped.exponent; omega⟩
      · exact inductionHypothesis fun later listed => few later (List.mem_cons_of_mem _ listed)

theorem value_interval_lt {x : Binary64} {m : Nat} (significand : x.significand < twoTo precision)
    (greatest : x.exponent ≤ m) : x.interval.value < twoTo (2 + precision + m) := by
  have unit : twoTo x.exponent.toNat ≤ twoTo m := twoTo_le_twoTo (by omega)
  calc
    x.interval.value = 4 * x.significand * twoTo x.exponent.toNat := rfl
    _ < 4 * twoTo precision * twoTo m :=
      Nat.mul_lt_mul_of_lt_of_le (Nat.mul_lt_mul_of_pos_left significand (by decide)) unit (twoTo_pos m)
    _ = twoTo (2 + precision + m) := by
      rw [twoTo_add, twoTo_add]
      rfl

theorem denominator_interval_lt {x : Binary64} {n : Nat} (least : -x.exponent ≤ n) :
    x.interval.denominator < twoTo (3 + n) := by
  have unit : twoTo (-x.exponent).toNat ≤ twoTo n := twoTo_le_twoTo (by omega)
  calc
    x.interval.denominator = 4 * twoTo (-x.exponent).toNat := rfl
    _ < 8 * twoTo n := Nat.mul_lt_mul_of_lt_of_le (by decide) unit (twoTo_pos n)
    _ = twoTo (3 + n) := by
      rw [twoTo_add]
      rfl

/-- The shortest decimals of all numbers have fewer digits and lower exponents than these. -/
theorem small_shortest {x : Binary64} (finite : x.Finite) : x.shortest.Small 2124 1050 := by
  have value := value_interval_lt (m := 971) finite.significand finite.greatest
  have least := finite.least
  have denominator := denominator_interval_lt (x := x) (n := 1074) (by unfold leastExponent at least; omega)
  have bounds := floorLog10_bounds x.interval.value x.interval.denominator
  have valueLog := log2_lt_of_lt_twoTo (by unfold precision; omega) value
  have denominatorLog := log2_lt_of_lt_twoTo (by omega) denominator
  unfold precision at valueLog
  have decimalValue := Nat.lt_of_lt_of_le value (twoTo_le_tenTo _)
  refine Interval.small_firstOn (n := 1097) decimalValue (by omega) (by omega) (by decide) fun count listed => ?_
  rcases List.mem_map.mp listed with ⟨index, below, rfl⟩
  exact List.mem_range.mp below

/-! ## Texts as literals -/

open Literal

/-- An unsigned literal that is short and not overlong. -/
inductive Modest : List Char → Prop
  | intro {whole fraction mantissa text : List Char} {exponent : Int} (digits : Mantissa whole fraction mantissa)
      (shifted : Exponent exponent text) (near : (whole.length : Int) + exponent < signedBound)
      (short : whole.length + fraction.length < signedBound) : Modest (mantissa ++ text)

/-- Without an exponent, the digits only have to be few enough. -/
theorem Modest.of_mantissa {whole fraction mantissa : List Char} (digits : Mantissa whole fraction mantissa)
    (short : whole.length + fraction.length < signedBound) : Modest mantissa := by
  have near : (whole.length : Int) + 0 < signedBound := by omega
  have modest := Modest.intro digits .none near short
  rwa [List.append_nil] at modest

theorem modest_positional {d : ShortDecimal} (few : (Numeral.write d.digits).length ≤ 2124)
    (low : -5 ≤ d.leadExponent) (high : d.leadExponent ≤ 15) : Modest d.positional := by
  have number := isNumber_write d.digits
  have lead : d.leadExponent = (Numeral.write d.digits).length - 1 + d.exponent := rfl
  unfold ShortDecimal.positional
  dsimp only
  rw [← Numeral.write]
  generalize Numeral.write d.digits = digits at few number lead
  have zeros (n : Nat) : (List.replicate n '0').all Char.isDigit = true :=
    List.all_eq_true.mpr fun c listed => by rw [List.eq_of_mem_replicate listed]; rfl
  split
  · next whole =>
    have wholeNumber : IsNumber (digits ++ List.replicate d.exponent.toNat '0') :=
      ⟨by simp [number.nonempty], by rw [List.all_append, number.each, zeros]; rfl⟩
    have mantissa : Mantissa _ ['0'] _ := .pointed wholeNumber rfl
    refine Modest.of_mantissa mantissa ?_
    rw [List.length_append, List.length_replicate, List.length_singleton]
    unfold signedBound
    omega
  · split
    · have wholeNumber : IsNumber (digits.take (d.leadExponent.toNat + 1)) :=
        ⟨by simp [number.nonempty], List.all_eq_true.mpr fun c listed =>
          List.all_eq_true.mp number.each c (List.mem_of_mem_take listed)⟩
      have fractionDigits : (digits.drop (d.leadExponent.toNat + 1)).all Char.isDigit = true :=
        List.all_eq_true.mpr fun c listed => List.all_eq_true.mp number.each c (List.mem_of_mem_drop listed)
      refine Modest.of_mantissa (.pointed wholeNumber fractionDigits) ?_
      rw [List.length_take, List.length_drop]
      unfold signedBound
      omega
    · have zero : IsNumber ['0'] := ⟨List.cons_ne_nil _ _, rfl⟩
      have fractionDigits :
          (List.replicate (-d.leadExponent - 1).toNat '0' ++ digits).all Char.isDigit = true := by
        rw [List.all_append, number.each, zeros]
        rfl
      have short :
          ['0'].length + (List.replicate (-d.leadExponent - 1).toNat '0' ++ digits).length < signedBound := by
        rw [List.length_append, List.length_replicate, List.length_singleton]
        unfold signedBound
        omega
      exact Modest.of_mantissa (.pointed zero fractionDigits) short

theorem exponent_write (lead : Int) :
    Exponent lead ('e' :: (if lead < 0 then '-' else '+') :: Numeral.write lead.natAbs) := by
  refine .marked (.inl rfl) ?_
  by_cases negative : lead < 0
  · rw [if_pos negative]
    have signed := Signed.intro .minus (isNumber_write lead.natAbs)
    rwa [if_pos rfl, Numeral.value_write, show -(lead.natAbs : Int) = lead by omega] at signed
  · rw [if_neg negative]
    have signed := Signed.intro .plus (isNumber_write lead.natAbs)
    rwa [if_neg (by decide), Numeral.value_write, show (lead.natAbs : Int) = lead by omega] at signed

theorem modest_scientific {d : ShortDecimal} (few : (Numeral.write d.digits).length ≤ 2124)
    (exponent : d.exponent ≤ 1050) : Modest d.scientific := by
  have number := isNumber_write d.digits
  have lead : d.leadExponent = (Numeral.write d.digits).length - 1 + d.exponent := rfl
  have shifted := exponent_write d.leadExponent
  unfold ShortDecimal.scientific
  dsimp only
  rw [← Numeral.write, ← Numeral.write]
  generalize Numeral.write d.digits = digits at few number lead
  rcases number.eq_cons with ⟨c, rest, rfl, digit⟩
  have each := number.each
  rw [List.all_cons, Bool.and_eq_true] at each
  have first : IsNumber [c] := ⟨List.cons_ne_nil _ _, by simpa using digit⟩
  rw [List.length_cons] at few lead
  have near : (([c] : List Char).length : Int) + d.leadExponent < signedBound := by
    rw [List.length_singleton]
    unfold signedBound
    omega
  cases rest with
  | nil =>
      have short : ([c] : List Char).length + ([] : List Char).length < signedBound := by
        rw [List.length_singleton]
        decide
      have modest := Modest.intro (.plain first) shifted near short
      simpa using modest
  | cons next later =>
      have short : ([c] : List Char).length + (next :: later).length < signedBound := by
        rw [List.length_singleton]
        unfold signedBound
        omega
      have modest := Modest.intro (.pointed first each.2) shifted near short
      simpa using modest

theorem Modest.exists_spells {size : List Char} (modest : Modest size) (negative : Bool) :
    ∃ l : Literal, l.Spells (if negative then '-' :: size else size) ∧ l.Short ∧ ¬ l.Overlong := by
  rcases modest with @⟨whole, fraction, mantissa, text, exponent, digits, shifted, near, short⟩
  let l : Literal := ⟨negative, whole, fraction, exponent⟩
  have signed : ∃ sign, Sign negative sign ∧
      (if negative then '-' :: (mantissa ++ text) else mantissa ++ text) = sign ++ (mantissa ++ text) := by
    cases negative with
    | false => exact ⟨[], .none, rfl⟩
    | true => exact ⟨['-'], .minus, rfl⟩
  rcases signed with ⟨sign, written, same⟩
  rw [same]
  refine ⟨l, .intro written digits shifted, short, fun long => ?_⟩
  have reached : (signedBound : Int) ≤ whole.length + exponent := long.le_length_add
  omega

/-- The text of a number is that of a literal which is short and not overlong. -/
theorem exists_spells_text {x : Binary64} (finite : x.Finite) :
    ∃ l : Literal, l.Spells x.text ∧ l.Short ∧ ¬ l.Overlong := by
  have small := small_shortest finite
  have few := Numeral.length_write_le (by decide) small.digits
  refine Modest.exists_spells ?_ x.negative
  split
  · have zero : IsNumber ['0'] := ⟨List.cons_ne_nil _ _, rfl⟩
    have mantissa : Mantissa ['0'] ['0'] ['0', '.', '0'] := .pointed zero rfl
    exact Modest.of_mantissa mantissa (by decide)
  · dsimp only
    split
    · next plain => exact modest_positional few plain.1 plain.2
    · exact modest_scientific few small.exponent

/-- The conversion of the text of a number has an answer. -/
theorem ofLiteral_text_ne_overflow {x : Binary64} (finite : x.Finite) :
    Decimal.ofLiteral x.text ≠ .error .overflow := by
  rcases exists_spells_text finite with ⟨l, spelled, short, notLong⟩
  rw [Decimal.ofLiteral_of_spells spelled]
  exact fun overflows => notLong ((exact_eq_overflow_iff short).mp overflows)

end Binary64
end RecordDirectory
