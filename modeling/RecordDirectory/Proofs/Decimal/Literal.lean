import RecordDirectory.Decimal.Literal
import RecordDirectory.Proofs.Stored.Decimal

namespace RecordDirectory

/-!
# Decimals as literals

The text of a decimal is a literal, and the conversion of that literal gives the decimal back, with the
same scale.  No zero is dropped on the way, since the scale is within its bound, and the digits that are
left without the zeros in front are few enough, since the coefficient is within its own.

The one exception is zero, which is read without places.  A decimal is `Bare` where that makes no
difference, and every conversion ends with such a decimal: the digits of a literal start with another one
than zero, and this one is never dropped.
-/

namespace Numeral

/-- Zeros in front of digits do not count. -/
theorem value_dropWhile_zero (digits : List Char) :
    value (digits.dropWhile (· == '0')) = value digits := by
  induction digits with
  | nil => rfl
  | cons c rest inductionHypothesis =>
      by_cases zero : c = '0'
      · subst zero
        rw [List.dropWhile_cons_of_pos (by decide), inductionHypothesis]
        rfl
      · rw [List.dropWhile_cons_of_neg (by simpa using zero)]

/-- Digits that start with another one than zero stand for at least a power of ten. -/
theorem tenTo_le_value {c : Char} (digit : c.isDigit = true) (nonzero : c ≠ '0') (rest : List Char) :
    tenTo rest.length ≤ value (c :: rest) := by
  have first : 1 ≤ c.toNat - '0'.toNat := by
    have bounds := Char.isDigit_iff_toNat.mp digit
    have different : c.toNat ≠ '0'.toNat := fun same => nonzero (Char.toNat_inj.mp same)
    omega
  calc
    tenTo rest.length ≤ tenTo rest.length * (c.toNat - '0'.toNat) := Nat.le_mul_of_pos_right _ first
    _ ≤ value (c :: rest) := by
      rw [value, Nat.ofDigitChars_cons, Nat.ofDigitChars_eq_ofDigitChars_zero, Nat.mul_zero, Nat.zero_add]
      exact Nat.le_add_right _ _

/-- What is left of digits without the zeros in front is nothing, or starts with another digit. -/
theorem dropWhile_zero_cases {digits : List Char} (each : digits.all Char.isDigit = true) :
    digits.dropWhile (· == '0') = [] ∨
      ∃ c rest, digits.dropWhile (· == '0') = c :: rest ∧ c.isDigit = true ∧ c ≠ '0' := by
  induction digits with
  | nil => exact .inl rfl
  | cons c rest inductionHypothesis =>
      rw [List.all_cons, Bool.and_eq_true] at each
      by_cases zero : c = '0'
      · subst zero
        rw [List.dropWhile_cons_of_pos (by decide)]
        exact inductionHypothesis each.2
      · rw [List.dropWhile_cons_of_neg (by simpa using zero)]
        exact .inr ⟨c, rest, rfl, each.1, zero⟩

theorem fitsSigned64_natCast {n : Nat} (small : n < signedBound) : fitsSigned64 (n : Int) = true := by
  rw [fitsSigned64_iff]
  exact ⟨by omega, Int.ofNat_lt.mpr small⟩

end Numeral

/-- Zero has no places. -/
def Decimal.Bare (d : Decimal) : Prop :=
  d.coefficient = 0 → d.scale = 0

namespace Literal

/-- All digits of a literal are digits. -/
def Proper (l : Literal) : Prop :=
  (l.whole ++ l.fraction).all Char.isDigit = true

theorem proper_of_readUnsigned? {negative : Bool} {cs : List Char} {l : Literal}
    (read : readUnsigned? negative cs = some l) : l.Proper := by
  have taken (digits : List Char) : (digits.takeWhile Char.isDigit).all Char.isDigit = true :=
    List.all_takeWhile
  unfold readUnsigned? at read
  dsimp only at read
  split at read
  · split at read
    · cases read
    · rcases Option.map_eq_some_iff.mp read with ⟨exponent, _, rfl⟩
      rw [Proper, List.all_append, taken, taken]
      rfl
  · split at read
    · cases read
    · rcases Option.map_eq_some_iff.mp read with ⟨exponent, _, rfl⟩
      rw [Proper, List.append_nil, taken]

theorem proper_of_read? {cs : List Char} {l : Literal} (read : read? cs = some l) : l.Proper := by
  unfold read? at read
  split at read <;> exact proper_of_readUnsigned? read

/-! ## Conversion -/

/-- A digit that is not zero stays, whatever is dropped behind it. -/
theorem dropZeros_append {c : Char} (nonzero : c ≠ '0') (reversed : List Char) (scale : Int) :
    ∃ kept, (dropZeros (reversed ++ [c]) scale).1 = kept ++ [c] := by
  induction reversed generalizing scale with
  | nil => exact ⟨[], by simp [dropZeros, nonzero]⟩
  | cons head rest inductionHypothesis =>
      rw [List.cons_append, dropZeros]
      split
      · exact inductionHypothesis _
      · exact ⟨head :: rest, rfl⟩

/-- Nothing is dropped where the scale is within its bound. -/
theorem dropZeros_of_le {scale : Int} (room : scale ≤ Decimal.greatestScale) (reversed : List Char) :
    dropZeros reversed scale = (reversed, scale) := by
  cases reversed with
  | nil => rfl
  | cons c rest => rw [dropZeros, if_neg (fun excess => absurd excess.1 (by omega))]

/-- A converted decimal is not zero. -/
theorem coefficient_ne_zero_of_convert {negative : Bool} {c : Char} {rest : List Char} {places : Int}
    {d : Decimal} (digit : c.isDigit = true) (nonzero : c ≠ '0')
    (converted : convert negative (c :: rest) places = .ok d) : d.coefficient ≠ 0 := by
  rcases dropZeros_append nonzero rest.reverse places with ⟨kept, dropped⟩
  unfold convert at converted
  rw [List.reverse_cons] at converted
  dsimp only at converted
  split at converted
  · cases converted
  · split at converted
    · cases converted
    · split at converted
      · cases converted
      · split at converted
        · next found parts =>
          cases converted
          rw [dropped, List.reverse_append, List.reverse_singleton, List.singleton_append] at parts
          have size := Nat.lt_of_lt_of_le (tenTo_pos _) (Numeral.tenTo_le_value digit nonzero kept.reverse)
          have positive := Int.mul_pos (Int.natCast_pos.mpr size) (Int.natCast_pos.mpr (tenTo_pos
            (-(dropZeros (rest.reverse ++ [c]) places).2).toNat))
          have coefficient := (Decimal.ofParts?_eq_some_iff.mp parts).1
          split at coefficient <;> omega
        · cases converted

theorem bare_of_exact {l : Literal} (proper : l.Proper) {d : Decimal} (converted : l.exact = .ok d) :
    d.Bare := by
  unfold exact at converted
  split at converted
  · cases converted
  · split at converted
    · cases converted
      exact fun _ => rfl
    · next nonempty =>
      split at converted
      · cases converted
      · rcases Numeral.dropWhile_zero_cases proper with empty | ⟨c, rest, starts, digit, nonzero⟩
        · rw [digits, empty] at nonempty
          exact absurd rfl nonempty
        · rw [digits, starts] at converted
          exact fun zero => absurd zero (coefficient_ne_zero_of_convert digit nonzero converted)

/-- Digits of a coefficient are few enough, where there are no zeros in front. -/
theorem length_le_of_fits {c : Char} {rest : List Char} (digit : c.isDigit = true) (nonzero : c ≠ '0')
    (fits : Numeral.value (c :: rest) < Decimal.coefficientBound) : (c :: rest).length ≤ greatestLength := by
  rcases Nat.lt_or_ge rest.length greatestLength with short | long
  · exact short
  · have split : tenTo rest.length = tenTo greatestLength * tenTo (rest.length - greatestLength) := by
      rw [← tenTo_add]
      exact congrArg tenTo (by omega)
    have beyond : Decimal.coefficientBound ≤ tenTo rest.length := by
      rw [split]
      exact Nat.le_trans (by decide) (Nat.le_mul_of_pos_right _ (tenTo_pos _))
    have reached := Numeral.tenTo_le_value digit nonzero rest
    omega

/-- Digits that fit a decimal are converted as they stand. -/
theorem convert_of_fits (negative : Bool) {digits : List Char} {scale : Nat}
    (room : scale ≤ Decimal.greatestScale) (few : digits.length ≤ greatestLength)
    (fits : Numeral.value digits < Decimal.coefficientBound) :
    ∃ d, convert negative digits scale = .ok d ∧ d.scale = scale ∧
      d.coefficient = if negative then -(Numeral.value digits : Int) else Numeral.value digits := by
  have places : (scale : Int) ≤ Decimal.greatestScale := Int.ofNat_le.mpr room
  have least : min (scale : Int) 0 = 0 := by omega
  have short : Numeral.fitsSigned64 (digits.length : Int) = true :=
    Numeral.fitsSigned64_natCast (Nat.lt_of_le_of_lt few (by decide))
  let coefficient : Int := if negative then -(Numeral.value digits : Int) else Numeral.value digits
  have bounded : coefficient.natAbs < Decimal.coefficientBound := by
    cases negative <;> simpa [coefficient] using fits
  refine ⟨⟨coefficient, scale, bounded, room⟩, ?_, rfl, rfl⟩
  unfold convert
  rw [dropZeros_of_le places]
  dsimp only
  rw [List.length_reverse, List.reverse_reverse, least, Int.sub_zero, if_neg (Int.not_lt.mpr places),
    if_neg (not_not_intro short), if_neg (by omega), Int.toNat_natCast, Int.toNat_neg_natCast, tenTo_zero,
    Int.natCast_one, Int.mul_one]
  have parts : Decimal.ofParts? coefficient scale = some ⟨coefficient, scale, bounded, room⟩ :=
    Decimal.ofParts?_self ⟨coefficient, scale, bounded, room⟩
  rw [parts]

/-- A literal without an exponent whose digits fit a decimal is converted as it stands. -/
theorem exact_of_fits (negative : Bool) {whole fraction : List Char}
    (each : (whole ++ fraction).all Char.isDigit = true) (room : fraction.length ≤ Decimal.greatestScale)
    (fits : Numeral.value (whole ++ fraction) < Decimal.coefficientBound)
    (nonzero : Numeral.value (whole ++ fraction) ≠ 0) :
    ∃ d, exact ⟨negative, whole, fraction, 0⟩ = .ok d ∧ d.scale = fraction.length ∧
      d.coefficient = if negative then -(Numeral.value (whole ++ fraction) : Int)
        else Numeral.value (whole ++ fraction) := by
  rw [← Numeral.value_dropWhile_zero] at fits nonzero ⊢
  rcases Numeral.dropWhile_zero_cases each with empty | ⟨c, rest, starts, digit, notZero⟩
  · rw [empty] at nonzero
    exact absurd rfl nonzero
  · have few := length_le_of_fits digit notZero (starts ▸ fits)
    rw [← starts] at few
    have converted := convert_of_fits negative room few fits
    have within : Numeral.fitsSigned64 (fraction.length : Int) = true :=
      Numeral.fitsSigned64_natCast (Nat.lt_of_le_of_lt room (by decide))
    unfold exact digits places
    dsimp only
    rw [if_neg (by decide), if_neg (by simp [starts]), Int.sub_zero, if_neg (not_not_intro within)]
    exact converted

/-- Zeros are converted to zero without places. -/
theorem exact_of_zero (negative : Bool) {whole fraction : List Char}
    (each : (whole ++ fraction).all Char.isDigit = true) (zero : Numeral.value (whole ++ fraction) = 0) :
    exact ⟨negative, whole, fraction, 0⟩ = .ok Decimal.zero := by
  rw [← Numeral.value_dropWhile_zero] at zero
  rcases Numeral.dropWhile_zero_cases each with empty | ⟨c, rest, starts, digit, notZero⟩
  · unfold exact digits
    dsimp only
    rw [if_neg (by decide), empty]
    rfl
  · have reached := Numeral.tenTo_le_value digit notZero rest
    rw [← starts, zero] at reached
    exact absurd (tenTo_pos rest.length) (by omega)

/-! ## Reading what was written -/

/-- Digits are read up to the first character that is none. -/
theorem span_isDigit {digits : List Char} (each : digits.all Char.isDigit = true) (rest : List Char)
    (stops : ∀ c, rest.head? = some c → c.isDigit = false) :
    (digits ++ rest).takeWhile Char.isDigit = digits ∧ (digits ++ rest).dropWhile Char.isDigit = rest := by
  have digit := List.all_eq_true.mp each
  rw [List.takeWhile_append_of_pos digit, List.dropWhile_append_of_pos digit]
  cases rest with
  | nil => simp
  | cons c later => simp [stops c rfl]

/-- Digits with a point among them are the literal of these digits. -/
theorem readUnsigned?_digits (negative : Bool) {whole fraction : List Char} {scale : Nat}
    (nonempty : whole ≠ []) (length : fraction.length = scale) (wholeDigits : whole.all Char.isDigit = true)
    (fractionDigits : fraction.all Char.isDigit = true) :
    readUnsigned? negative (whole ++ if scale = 0 then [] else '.' :: fraction) =
      some ⟨negative, whole, fraction, 0⟩ := by
  have present : whole.isEmpty = false := by simpa using nonempty
  by_cases none : scale = 0
  · have empty : fraction = [] := List.eq_nil_of_length_eq_zero (length.trans none)
    rcases span_isDigit wholeDigits [] (by simp) with ⟨taken, dropped⟩
    rw [if_pos none, empty]
    simp only [readUnsigned?, taken, dropped, present]
    rfl
  · rcases span_isDigit wholeDigits ('.' :: fraction) (by simp [Char.isDigit]) with ⟨taken, dropped⟩
    rcases span_isDigit fractionDigits [] (by simp) with ⟨fractionTaken, fractionDropped⟩
    rw [List.append_nil] at fractionTaken fractionDropped
    rw [if_neg none]
    simp only [readUnsigned?, taken, dropped, fractionTaken, fractionDropped, present, Bool.false_and]
    rfl

/-- A text that starts with a digit has no sign. -/
theorem read?_of_digit {c : Char} (digit : c.isDigit = true) (rest : List Char) :
    read? (c :: rest) = readUnsigned? false (c :: rest) := by
  unfold read?
  split
  · next same =>
    cases (List.cons.inj same).1
    cases digit
  · next same =>
    cases (List.cons.inj same).1
    cases digit
  · rfl

end Literal

namespace Decimal

/-- Every decimal that is converted from a literal is bare. -/
theorem bare_of_ofLiteral {text : List Char} {d : Decimal} (converted : ofLiteral text = .ok d) : d.Bare := by
  unfold ofLiteral at converted
  split at converted
  · next read => exact Literal.bare_of_exact (Literal.proper_of_read? read) converted
  · cases converted

/-- The text of a decimal is read as the literal of its digits. -/
theorem read?_write (d : Decimal) :
    ∃ whole fraction, Literal.read? d.write = some ⟨decide (d.coefficient < 0), whole, fraction, 0⟩ ∧
      fraction.length = d.scale ∧ (whole ++ fraction).all Char.isDigit = true ∧
      Numeral.value (whole ++ fraction) = d.coefficient.natAbs := by
  rcases writeDigits_eq d.coefficient.natAbs d.scale with
    ⟨whole, fraction, written, nonempty, length, wholeDigits, fractionDigits, value⟩
  have unsigned (negative : Bool) := Literal.readUnsigned?_digits negative nonempty length wholeDigits fractionDigits
  rw [← written] at unsigned
  refine ⟨whole, fraction, ?_, length, ?_, ?_⟩
  · rcases head_writeDigits d.coefficient.natAbs d.scale with ⟨c, rest, starts, digit⟩
    unfold write
    by_cases negative : d.coefficient < 0
    · rw [if_pos negative, decide_eq_true negative]
      exact unsigned true
    · rw [if_neg negative, decide_eq_false negative]
      rw [starts] at unsigned ⊢
      exact (Literal.read?_of_digit digit rest).trans (unsigned false)
  · rw [List.all_append, wholeDigits, fractionDigits]
    rfl
  · rw [Numeral.value, Nat.ofDigitChars_append, value]

theorem eq_of_parts {a b : Decimal} (coefficient : a.coefficient = b.coefficient) (scale : a.scale = b.scale) :
    a = b := by
  cases a
  cases b
  cases coefficient
  cases scale
  rfl

/-- A bare decimal is converted from its own text, with the same scale. -/
theorem ofLiteral_write {d : Decimal} (bare : d.Bare) : ofLiteral d.write = .ok d := by
  rcases read?_write d with ⟨whole, fraction, read, length, each, value⟩
  unfold ofLiteral
  rw [read]
  dsimp only
  by_cases zero : d.coefficient = 0
  · have isZero : d = Decimal.zero := eq_of_parts zero (bare zero)
    rw [Literal.exact_of_zero _ each (by omega), isZero]
  · have fits : Numeral.value (whole ++ fraction) < coefficientBound := value ▸ d.coefficient_lt
    have nonzero : Numeral.value (whole ++ fraction) ≠ 0 := by omega
    rcases Literal.exact_of_fits (decide (d.coefficient < 0)) each (length ▸ d.scale_le) fits nonzero with
      ⟨other, converted, scale, coefficient⟩
    rw [converted]
    refine congrArg Except.ok (eq_of_parts ?_ (scale.trans length))
    rw [coefficient, value]
    by_cases negative : d.coefficient < 0
    · rw [decide_eq_true negative, if_pos rfl]
      omega
    · rw [decide_eq_false negative, if_neg Bool.false_ne_true]
      omega

end Decimal
end RecordDirectory
