import RecordDirectory.Decimal.Stored

namespace RecordDirectory
namespace Decimal

/-!
# Stored decimals read back

A decimal is stored as its text, with all places of its scale.  Reading keeps the zeros at the end of a
fraction, so the same decimal comes back and not only one of the same value.

Nothing is rounded on the way.  The digits read so far never stand for more than all digits do, and the
last place of a fraction is read before its scale is full.
-/

theorem le_ofDigitChars (digits : List Char) (value : Nat) : value ≤ Nat.ofDigitChars 10 digits value := by
  induction digits generalizing value with
  | nil => simp
  | cons c rest inductionHypothesis =>
      rw [Nat.ofDigitChars_cons]
      have later := inductionHypothesis (10 * value + (c.toNat - '0'.toNat))
      omega

/-- One digit that neither overflows nor stands behind a full fraction. -/
theorem readDigits?_digit {p : Progress} {c : Char} (digit : c.isDigit = true)
    (room : p.point = true → p.scale < greatestScale)
    (fits : 10 * p.value + (c.toNat - '0'.toNat) < coefficientBound) (rest : List Char) :
    readDigits? p (c :: rest) =
      readDigits? ⟨10 * p.value + (c.toNat - '0'.toNat), if p.point then p.scale + 1 else p.scale, p.point,
        true⟩ rest := by
  have notFull : (p.point && decide (greatestScale ≤ p.scale)) = false := by
    cases point : p.point with
    | false => rfl
    | true => simpa using room point
  rw [Nat.mul_comm] at fits ⊢
  simp only [readDigits?, notFull, digit, if_pos, fits, Bool.false_eq_true, if_false]

/-- The digits in front of the point. -/
theorem readDigits?_whole {digits : List Char} (each : digits.all Char.isDigit = true) (nonempty : digits ≠ [])
    {value scale : Nat} (fits : Nat.ofDigitChars 10 digits value < coefficientBound) (started : Bool)
    (rest : List Char) :
    readDigits? ⟨value, scale, false, started⟩ (digits ++ rest) =
      readDigits? ⟨Nat.ofDigitChars 10 digits value, scale, false, true⟩ rest := by
  induction digits generalizing value started with
  | nil => exact absurd rfl nonempty
  | cons c later inductionHypothesis =>
      rw [List.all_cons, Bool.and_eq_true] at each
      rw [Nat.ofDigitChars_cons] at fits ⊢
      have reached := le_ofDigitChars later (10 * value + (c.toNat - '0'.toNat))
      rw [List.cons_append]
      rw [readDigits?_digit each.1 (fun point => by cases point) (Nat.lt_of_le_of_lt reached fits)]
      cases later with
      | nil => rfl
      | cons next others => exact inductionHypothesis each.2 (List.cons_ne_nil next others) fits true

/-- The digits behind the point, up to the end. -/
theorem readDigits?_fraction {digits : List Char} (each : digits.all Char.isDigit = true) {value scale : Nat}
    (fits : Nat.ofDigitChars 10 digits value < coefficientBound)
    (room : scale + digits.length ≤ greatestScale) :
    readDigits? ⟨value, scale, true, true⟩ digits =
      some ⟨Nat.ofDigitChars 10 digits value, scale + digits.length, true, true⟩ := by
  induction digits generalizing value scale with
  | nil => rfl
  | cons c later inductionHypothesis =>
      rw [List.all_cons, Bool.and_eq_true] at each
      rw [Nat.ofDigitChars_cons] at fits ⊢
      rw [List.length_cons] at room ⊢
      have reached := le_ofDigitChars later (10 * value + (c.toNat - '0'.toNat))
      have notFull : scale < greatestScale := by omega
      have places : scale + 1 + later.length = scale + (later.length + 1) := by omega
      rw [readDigits?_digit each.1 (fun _ => notFull) (Nat.lt_of_le_of_lt reached fits), if_pos rfl]
      rw [inductionHypothesis each.2 fits (places ▸ room), places]

/-- What is written is digits before the point, and as many behind it as the scale says. -/
theorem writeDigits_eq (size scale : Nat) :
    ∃ whole fraction, writeDigits size scale = whole ++ (if scale = 0 then [] else '.' :: fraction) ∧
      whole ≠ [] ∧ fraction.length = scale ∧ whole.all Char.isDigit = true ∧
      fraction.all Char.isDigit = true ∧
      Nat.ofDigitChars 10 fraction (Nat.ofDigitChars 10 whole 0) = size := by
  have padded : ∃ digits, digits = List.replicate (scale + 1 - (Numeral.write size).length) '0' ++
      Numeral.write size := ⟨_, rfl⟩
  rcases padded with ⟨digits, isPadded⟩
  have length : scale < digits.length := by
    rw [isPadded, List.length_append, List.length_replicate]
    omega
  have each : digits.all Char.isDigit = true := by
    rw [List.all_eq_true, isPadded]
    intro c listed
    rcases List.mem_append.mp listed with zero | digit
    · rw [List.eq_of_mem_replicate zero]
      decide
    · exact Numeral.isDigit_of_mem_write digit
  have value : Nat.ofDigitChars 10 digits 0 = size := by
    rw [isPadded, Nat.ofDigitChars_append, Nat.ofDigitChars_replicate_zero, Nat.mul_zero]
    exact Numeral.value_write size
  rw [← List.take_append_drop (digits.length - scale) digits] at each value
  rw [List.all_append, Bool.and_eq_true] at each
  rw [Nat.ofDigitChars_append] at value
  refine ⟨digits.take (digits.length - scale), digits.drop (digits.length - scale), ?_, ?_, ?_, each.1, each.2,
    value⟩
  · unfold writeDigits
    dsimp only
    rw [← isPadded]
    by_cases none : scale = 0
    · rw [if_pos none, if_pos none, List.append_nil]
    · rw [if_neg none, if_neg none]
  · intro empty
    have none := congrArg List.length empty
    rw [List.length_take, List.length_nil] at none
    omega
  · rw [List.length_drop]
    omega

/-- Written digits read back as the size and the scale that they were written for. -/
theorem readDigits?_writeDigits {size scale : Nat} (sizeFits : size < coefficientBound)
    (scaleFits : scale ≤ greatestScale) :
    ∃ p, readDigits? .start (writeDigits size scale) = some p ∧ p.value = size ∧ p.scale = scale := by
  rcases writeDigits_eq size scale with
    ⟨whole, fraction, written, nonempty, length, wholeDigits, fractionDigits, value⟩
  have reached := le_ofDigitChars fraction (Nat.ofDigitChars 10 whole 0)
  rw [written, Progress.start, readDigits?_whole wholeDigits nonempty (by omega)]
  split
  · next none =>
    have empty : fraction = [] := List.eq_nil_of_length_eq_zero (length.trans none)
    rw [empty, Nat.ofDigitChars_nil] at value
    exact ⟨_, rfl, value, none.symm⟩
  · have point : ∀ before, readDigits? ⟨before, 0, false, true⟩ ('.' :: fraction) =
        readDigits? ⟨before, 0, true, true⟩ fraction := fun _ => rfl
    rw [point, readDigits?_fraction fractionDigits (by omega) (by omega)]
    exact ⟨_, rfl, value, (Nat.zero_add _).trans length⟩

/-- Digits start with a digit. -/
theorem head_writeDigits (size scale : Nat) :
    ∃ c rest, writeDigits size scale = c :: rest ∧ c.isDigit = true := by
  rcases writeDigits_eq size scale with ⟨whole, fraction, written, nonempty, _, wholeDigits, _⟩
  cases whole with
  | nil => exact absurd rfl nonempty
  | cons c rest =>
      rw [List.all_cons, Bool.and_eq_true] at wholeDigits
      exact ⟨c, _, written, wholeDigits.1⟩

/-- A decimal reads back from its own text, with the same scale. -/
theorem read?_text (d : Decimal) : read? d.text = some d := by
  rcases readDigits?_writeDigits d.coefficient_lt d.scale_le with ⟨p, read, value, scale⟩
  rcases head_writeDigits d.coefficient.natAbs d.scale with ⟨c, rest, written, digit⟩
  have plain : readPlain? d.write = some d := by
    unfold write
    by_cases negative : d.coefficient < 0
    · have coefficient : -(p.value : Int) = d.coefficient := by omega
      simp only [negative, if_true, readPlain?, read, Option.bind_some, coefficient, scale]
      exact ofParts?_self d
    · have coefficient : (p.value : Int) = d.coefficient := by omega
      rw [if_neg negative]
      rw [written] at read ⊢
      have notMinus : c ≠ '-' := by
        rintro rfl
        exact absurd digit (by decide)
      have notPlus : c ≠ '+' := by
        rintro rfl
        exact absurd digit (by decide)
      unfold readPlain?
      split
      · next same => exact absurd (List.cons.inj same).1 notMinus
      · next same => exact absurd (List.cons.inj same).1 notPlus
      · simp only [read, Option.bind_some, Bool.false_eq_true, if_false, coefficient, scale]
        exact ofParts?_self d
  rw [read?, text, String.toList_ofList, plain]
  rfl

end Decimal
end RecordDirectory
