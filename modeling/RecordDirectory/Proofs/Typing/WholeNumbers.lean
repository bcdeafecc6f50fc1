import Mathlib.Data.List.TakeWhile
import RecordDirectory.Proofs.Typing.Fieldwise
import RecordDirectory.Proofs.Typing.Plain

namespace RecordDirectory

/-!
# Whole numbers, and texts of them

A client may send a whole number as a JSON number or as a text of its digits, with blanks around them.  Each of
the three types takes another way from here: a text is trimmed, a number is converted from its parts or read as
a literal, and a reference is taken as it is or read within 64 bits.  All of them meet, and so the two forms can
stand for one another in any bag.

Whole numbers are all that 64 bits hold, with or without a sign.  The upper half of those without a sign are
no references, in either form.
-/

namespace Text

variable {before after : List Char}

private theorem trimEnd_append (blank : ∀ c ∈ after, isBlank c = true) (cs : List Char) :
    trimEnd (cs ++ after) = trimEnd cs := by
  rw [trimEnd, List.reverse_append,
    List.dropWhile_append_of_pos fun c listed => blank c (List.mem_reverse.mp listed), trimEnd]

/-- Blanks around a text do not matter to trimming. -/
theorem trimChars_padded (blankBefore : ∀ c ∈ before, isBlank c = true)
    (blankAfter : ∀ c ∈ after, isBlank c = true) (cs : List Char) :
    trimChars (before ++ cs ++ after) = trimChars cs := by
  rw [trimChars, List.append_assoc, List.dropWhile_append_of_pos blankBefore, List.dropWhile_append, trimChars]
  split
  · next empty =>
    rw [List.isEmpty_iff.mp empty, List.dropWhile_eq_nil_iff.mpr blankAfter]
  · exact trimEnd_append blankAfter _

end Text

namespace Decimal

/-- A whole number as a decimal without places. -/
def whole (n : Int) (fits : n.natAbs < coefficientBound) : Decimal where
  coefficient := n
  scale := 0
  coefficient_lt := fits
  scale_le := Nat.zero_le _

theorem writeDigits_zero (size : Nat) : writeDigits size 0 = Numeral.write size := by
  have enough : 0 + 1 - (Numeral.write size).length = 0 := by
    have nonempty := List.length_pos_of_ne_nil (Numeral.write_ne_nil size)
    omega
  simp [writeDigits, enough]

/-- The text of a whole number is the same with and without a scale. -/
theorem write_whole {n : Int} (fits : n.natAbs < coefficientBound) : (whole n fits).write = Numeral.writeInt n := by
  simp only [write, whole, writeDigits_zero]
  cases n with
  | ofNat size => rfl
  | negSucc size =>
      rw [if_pos (Int.negSucc_lt_zero size)]
      rfl

theorem ofLiteral_writeInt {n : Int} (fits : n.natAbs < coefficientBound) :
    ofLiteral (Numeral.writeInt n) = .ok (whole n fits) := by
  rw [← write_whole fits]
  exact ofLiteral_write fun _ => rfl

end Decimal

namespace Numeral

theorem isBlank_of_mem_writeInt {n : Int} {c : Char} (listed : c ∈ writeInt n) : Text.isBlank c = false := by
  cases n with
  | ofNat size => exact Decimal.isBlank_of_isDigit (isDigit_of_mem_write listed)
  | negSucc size =>
      rcases List.mem_cons.mp listed with rfl | digit
      · decide
      · exact Decimal.isBlank_of_isDigit (isDigit_of_mem_write digit)

theorem text_ne_empty (n : Int) : text n ≠ "" := by
  intro empty
  have written := congrArg String.toList empty
  rw [text, String.toList_ofList] at written
  cases n with
  | ofNat size => exact write_ne_nil size written
  | negSucc size => cases written

end Numeral

namespace Typing

/-! ## Values that are read alike -/

/-- Two values that make no difference to a field of any type. -/
structure ReadAlike (value other : Json) : Prop where
  present : value.isNull = false
  otherPresent : other.isNull = false
  text : trimmedText other = trimmedText value
  decimal : decimalOf other = decimalOf value
  id : idOf? other = idOf? value

theorem input?_insert {value : Json} (present : value.isNull = false) (raw : RawValues) (name : String) :
    input? (raw.insert name value) name = some value := by
  rw [input?, Keyed.get?_insert, if_pos rfl]
  exact Option.filter_some_pos (by simp [present])

/-- A value can be given in the place of another one that is read alike. -/
theorem ReadAlike.typeValues_eq {value other : Json} (alike : ReadAlike value other)
    (fields : List FieldDefinition) (raw : RawValues) (name : String) :
    typeValues fields (raw.insert name other) = typeValues fields (raw.insert name value) := by
  refine typeValues_congr fun field _ => ?_
  by_cases same : field.name = name
  · subst same
    unfold typeField
    rw [input?_insert alike.present, input?_insert alike.otherPresent]
    simp only [textValue, numberValue, referenceValue, alike.text, alike.decimal, alike.id]
  · refine typeField_congr ?_
    rw [given, given, Keyed.get?_insert, Keyed.get?_insert, if_neg same, if_neg same]

/-! ## Whole numbers -/

/-- What fields of each type make of a whole number. -/
structure TypedAsWhole (n : Int) (value : Json) : Prop where
  text : ∀ (raw : RawValues) name target, typeValues [⟨name, .text, target⟩] (raw.insert name value) =
    .ok (.ofList [(name, .text (Numeral.text n))])
  number : ∃ d : Decimal, d.coefficient = n ∧ d.scale = 0 ∧ ∀ (raw : RawValues) name target,
    typeValues [⟨name, .number, target⟩] (raw.insert name value) = .ok (.ofList [(name, .number d)])
  reference : n < signedBound → ∀ (raw : RawValues) name target,
    typeValues [⟨name, .reference, some target⟩] (raw.insert name value) = .ok (.ofList [(name, .reference ⟨n⟩)])
  noReference : signedBound ≤ n → ∀ (raw : RawValues) name target,
    typeValues [⟨name, .reference, some target⟩] (raw.insert name value) =
      .error (.because (.fieldMustBeReference name))

theorem TypedAsWhole.of_readAlike {n : Int} {value other : Json} (whole : TypedAsWhole n value)
    (alike : ReadAlike value other) : TypedAsWhole n other where
  text raw name target := (alike.typeValues_eq _ raw name).trans (whole.text raw name target)
  number := by
    rcases whole.number with ⟨d, coefficient, scale, typed⟩
    refine ⟨d, coefficient, scale, fun raw name target => ?_⟩
    exact (alike.typeValues_eq _ raw name).trans (typed raw name target)
  reference fits raw name target := (alike.typeValues_eq _ raw name).trans (whole.reference fits raw name target)
  noReference beyond raw name target :=
    (alike.typeValues_eq _ raw name).trans (whole.noReference beyond raw name target)

theorem trimmedText_integer (n : Int) : trimmedText (.integer n) = Numeral.text n := by
  have written : Json.write (.integer n) = Numeral.writeInt n := rfl
  change Text.trim (Json.text (.integer n)) = _
  rw [Text.trim, Json.text, String.toList_ofList, written,
    Text.trimChars_of_no_blank fun c listed => Numeral.isBlank_of_mem_writeInt listed, Numeral.text]

theorem decimalOf_integer {n : Int} (fits : n.natAbs < Decimal.coefficientBound) :
    decimalOf (.integer n) = .ok (.whole n fits) := by
  have parts : Decimal.ofParts? n 0 = some (.whole n fits) := Decimal.ofParts?_self (.whole n fits)
  rw [decimalOf, wholeDecimal, parts]

/-- The digits of a whole number, with blanks around them, are read like the number. -/
theorem readAlike_digits {n : Int} (fits : n.natAbs < Decimal.coefficientBound) {before after : List Char}
    (blankBefore : ∀ c ∈ before, Text.isBlank c = true) (blankAfter : ∀ c ∈ after, Text.isBlank c = true) :
    ReadAlike (.integer n) (.string (String.ofList (before ++ Numeral.writeInt n ++ after))) := by
  have trimmed : Text.trimChars (before ++ Numeral.writeInt n ++ after) = Numeral.writeInt n := by
    rw [Text.trimChars_padded blankBefore blankAfter,
      Text.trimChars_of_no_blank fun c listed => Numeral.isBlank_of_mem_writeInt listed]
  refine ⟨rfl, rfl, ?_, ?_, ?_⟩
  · rw [trimmedText_integer, trimmedText, Text.trim, String.toList_ofList, trimmed, Numeral.text]
  · rw [decimalOf_integer fits, decimalOf, String.toList_ofList, trimmed, Decimal.ofLiteral_writeInt fits]
  · simp only [idOf?, String.toList_ofList, trimmed, Numeral.readSigned64?, Numeral.readSigned?_writeInt]
    cases fit : Numeral.fitsSigned64 n <;> simp [Option.filter, fit]

theorem typedAsWhole_integer {n : Int} (lower : -(signedBound : Int) ≤ n)
    (fits : n.natAbs < Decimal.coefficientBound) : TypedAsWhole n (.integer n) where
  text raw name target := by
    rw [typeValues_singleton_eq_ok_iff, typeField, input?_insert rfl]
    simp only [textValue, trimmedText_integer, String.isEmpty_iff, Numeral.text_ne_empty, if_false]
  number := by
    refine ⟨.whole n fits, rfl, rfl, fun raw name target => ?_⟩
    rw [typeValues_singleton_eq_ok_iff, typeField, input?_insert rfl]
    simp only [numberValue, decimalOf_integer fits]
  reference below raw name target := by
    have within : Numeral.fitsSigned64 n = true := Numeral.fitsSigned64_iff.mpr ⟨lower, below⟩
    rw [typeValues_singleton_eq_ok_iff, typeField, input?_insert rfl]
    simp only [referenceValue, idOf?, within, if_true, Option.isNone_some, Bool.false_eq_true, if_false]
  noReference beyond raw name target := by
    have without : Numeral.fitsSigned64 n = false := by
      rw [← Bool.not_eq_true, Numeral.fitsSigned64_iff]
      omega
    rw [typeValues_singleton_eq_error_iff, typeField, input?_insert rfl]
    simp only [referenceValue, idOf?, without, Option.isNone_some, Bool.false_eq_true, if_false]

/-- A whole number within 64 bits and the text of its digits, with any blanks around them, are typed alike:
each alone under each type of field, and in the place of one another in any bag under any fields. -/
theorem typeValues_whole {n : Int} (lower : -(signedBound : Int) ≤ n) (upper : n < unsignedBound)
    {before after : List Char} (blankBefore : ∀ c ∈ before, Text.isBlank c = true)
    (blankAfter : ∀ c ∈ after, Text.isBlank c = true) :
    let digits : Json := .string (String.ofList (before ++ Numeral.writeInt n ++ after))
    TypedAsWhole n (.integer n) ∧ TypedAsWhole n digits ∧
      ∀ fields (raw : RawValues) name,
        typeValues fields (raw.insert name digits) = typeValues fields (raw.insert name (.integer n)) := by
  have fits : n.natAbs < Decimal.coefficientBound := by
    unfold signedBound at lower
    unfold unsignedBound at upper
    unfold Decimal.coefficientBound
    omega
  have whole := typedAsWhole_integer lower fits
  have alike := readAlike_digits fits blankBefore blankAfter
  exact ⟨whole, whole.of_readAlike alike, alike.typeValues_eq⟩

/-- Both ends, with blanks of several kinds. -/
theorem typeValues_whole_ends :
    TypedAsWhole 18446744073709551615 (.string "\t 18446744073709551615\u00a0\n") ∧
      TypedAsWhole (-9223372036854775808) (.string "\u3000-9223372036854775808") := by
  have largest := @typeValues_whole 18446744073709551615 (by decide) (by decide) ['\t', ' '] ['\u00a0', '\n']
    (List.all_eq_true.mp (by decide)) (List.all_eq_true.mp (by decide))
  have least := @typeValues_whole (-9223372036854775808) (by decide) (by decide) ['\u3000'] []
    (List.all_eq_true.mp (by decide)) (List.all_eq_true.mp (by decide))
  have largestText : String.ofList (['\t', ' '] ++ Numeral.writeInt 18446744073709551615 ++ ['\u00a0', '\n']) =
    "\t 18446744073709551615\u00a0\n" := by decide +kernel
  have leastText : String.ofList (['\u3000'] ++ Numeral.writeInt (-9223372036854775808) ++ []) =
    "\u3000-9223372036854775808" := by decide +kernel
  exact ⟨largestText ▸ largest.2.1, leastText ▸ least.2.1⟩

end Typing
end RecordDirectory
