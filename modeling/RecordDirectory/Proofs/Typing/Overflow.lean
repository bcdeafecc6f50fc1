import RecordDirectory.Proofs.Binary64.Text
import RecordDirectory.Proofs.Json.Sized
import RecordDirectory.Proofs.Typing

namespace RecordDirectory

/-!
# Typing without an answer

Typing gives values or a fault, unless it comes to a number field whose input is the text of an overlong
literal.  The fields before this one are typed, and no field with another type and no other input of a number
field is without an answer.

The input has to be such as can stand in memory: a string is shorter than what 64 bits count, and a binary
number is finite (`Json.Sized`).  Every input that is read from a text is like this (`RawValues.sized_of_read?`).
-/

theorem Text.length_trimChars_le (cs : List Char) : (trimChars cs).length ≤ cs.length := by
  rw [trimChars, trimEnd, List.length_reverse]
  calc
    ((cs.dropWhile isBlank).reverse.dropWhile isBlank).length ≤ (cs.dropWhile isBlank).reverse.length :=
      (List.dropWhile_sublist _).length_le
    _ = (cs.dropWhile isBlank).length := List.length_reverse
    _ ≤ cs.length := (List.dropWhile_sublist _).length_le

/-- A text that is, without the blanks around it, that of an overlong literal. -/
def Literal.OverlongText (value : Json) : Prop :=
  ∃ s l, value = .string s ∧ Spells l (Text.trimChars s.toList) ∧ l.Overlong

namespace Decimal

open Literal

theorem ofLiteral_eq_overflow_iff {text : List Char} (fits : text.length < signedBound) :
    ofLiteral text = .error .overflow ↔ ∃ l : Literal, l.Spells text ∧ l.Overlong := by
  constructor
  · intro overflows
    cases read : Literal.read? text with
    | none =>
        rw [ofLiteral, read] at overflows
        cases overflows
    | some l =>
        have spelled := read?_eq_some_iff.mp read
        rw [ofLiteral_of_spells spelled] at overflows
        exact ⟨l, spelled, (exact_eq_overflow_iff (spelled.short fits)).mp overflows⟩
  · rintro ⟨l, spelled, long⟩
    rw [ofLiteral_of_spells spelled]
    exact (exact_eq_overflow_iff (spelled.short fits)).mpr long

end Decimal

namespace Typing

open Literal

theorem decimalOf_eq_overflow_iff {value : Json} (sized : value.Sized) :
    decimalOf value = .error .overflow ↔ OverlongText value := by
  cases value with
  | string s =>
      have fits : (Text.trimChars s.toList).length < signedBound :=
        Nat.lt_of_le_of_lt (Text.length_trimChars_le _) sized
      rw [decimalOf, Decimal.ofLiteral_eq_overflow_iff fits]
      constructor
      · rintro ⟨l, spelled, long⟩
        exact ⟨s, l, rfl, spelled, long⟩
      · rintro ⟨_, l, ⟨⟩, spelled, long⟩
        exact ⟨l, spelled, long⟩
  | float x =>
      constructor
      · exact fun overflows => absurd overflows (Binary64.ofLiteral_text_ne_overflow sized)
      · rintro ⟨_, _, ⟨⟩, _⟩
  | integer n =>
      constructor
      · intro overflows
        rw [decimalOf, wholeDecimal] at overflows
        split at overflows <;> cases overflows
      · rintro ⟨_, _, ⟨⟩, _⟩
  | null | bool | array | object =>
      constructor
      · rintro ⟨⟩
      · rintro ⟨_, _, ⟨⟩, _⟩

theorem numberValue_eq_overflow_iff {field : String} {input : Option Json}
    (sized : ∀ value, input = some value → value.Sized) :
    numberValue field input = .error .overflow ↔ ∃ value, input = some value ∧ OverlongText value := by
  cases input with
  | none =>
      constructor
      · rintro ⟨⟩
      · rintro ⟨_, ⟨⟩, _⟩
  | some value =>
      rw [numberValue]
      constructor
      · intro overflows
        split at overflows
        · cases overflows
        · cases overflows
        · next converted => exact ⟨value, rfl, (decimalOf_eq_overflow_iff (sized value rfl)).mp converted⟩
      · rintro ⟨_, ⟨⟩, long⟩
        rw [(decimalOf_eq_overflow_iff (sized value rfl)).mpr long]

/-- Only a number field can be without an answer. -/
theorem typeField_eq_overflow_iff {raw : RawValues} {field : FieldDefinition}
    (sized : ∀ name value, raw.get? name = some value → value.Sized) :
    typeField raw field = .error .overflow ↔
      field.type = .number ∧ ∃ value, raw.get? field.name = some value ∧ OverlongText value := by
  have inputSized (value : Json) (given : input? raw field.name = some value) : value.Sized :=
    sized field.name value (Option.filter_eq_some_iff.mp given).1
  unfold typeField
  dsimp only
  split
  · next kind =>
    rw [kind]
    constructor
    · intro overflows
      unfold textValue at overflows
      split at overflows
      · cases overflows
      · dsimp only at overflows
        split at overflows <;> cases overflows
    · rintro ⟨⟨⟩, _⟩
  · next kind =>
    rw [kind, numberValue_eq_overflow_iff inputSized]
    constructor
    · rintro ⟨value, given, long⟩
      exact ⟨rfl, value, (Option.filter_eq_some_iff.mp given).1, long⟩
    · rintro ⟨_, _, given, ⟨s, l, rfl, long⟩⟩
      exact ⟨.string s, Option.filter_eq_some_iff.mpr ⟨given, rfl⟩, s, l, rfl, long⟩
  · next kind =>
    rw [kind]
    constructor
    · intro overflows
      split at overflows
      · cases overflows
      · unfold referenceValue at overflows
        split at overflows
        · cases overflows
        · split at overflows <;> cases overflows
    · rintro ⟨⟨⟩, _⟩

/-- Typing has no answer where the first field that is not typed is a number field, and its input is the text
of an overlong literal. -/
theorem typeValues_eq_overflow_iff {fields : List FieldDefinition} {raw : RawValues}
    (sized : ∀ name value, raw.get? name = some value → value.Sized) :
    typeValues fields raw = .error .overflow ↔ ∃ before field after, fields = before ++ field :: after ∧
      (∀ other ∈ before, ∃ value, typeField raw other = .ok value) ∧ field.type = .number ∧
      ∃ value, raw.get? field.name = some value ∧ OverlongText value := by
  have mapped : typeValues fields raw = .error .overflow ↔ typeFields raw fields = .error .overflow := by
    unfold typeValues
    cases typeFields raw fields <;> simp [Except.map]
  rw [mapped, typeFields_eq_error_iff]
  simp only [typeField_eq_overflow_iff sized]

/-- A field with a text is typed first, and then comes an amount that has no answer. -/
theorem overlong_amount_of_typeValues :
    let fields : List FieldDefinition := [⟨"title", .text, none⟩, ⟨"amount", .number, none⟩]
    let text := "\x7b\"amount\": \" 1e9223372036854775807\", \"title\": \"Rent\"\x7d"
    let raw : RawValues := .ofList [("amount", .string " 1e9223372036854775807"), ("title", .string "Rent")]
    (Json.read? text).bind RawValues.ofJson? = some raw ∧
      (∀ name value, raw.get? name = some value → value.Sized) ∧
      ∃ before field after, fields = before ++ field :: after ∧
        (∀ other ∈ before, ∃ value, typeField raw other = .ok value) ∧ field.type = .number ∧
        ∃ value, raw.get? field.name = some value ∧ OverlongText value := by
  intro fields text raw
  have read : (Json.read? text).bind RawValues.ofJson? = some raw := by decide +kernel
  have fits : text.toList.length < signedBound := by decide +kernel
  have sized := RawValues.sized_of_read? fits read
  exact ⟨read, sized, (typeValues_eq_overflow_iff sized).mp (by decide +kernel)⟩

/-- This number is out of the range of decimals, but there is no answer that says so. -/
theorem no_answer_to_overlong_text :
    ∃ l : Literal, l.Spells "1e9223372036854775807".toList ∧ (∀ d : Decimal, d.value ≠ l.value) ∧
      typeValues [⟨"n", .number, none⟩] (.ofList [("n", .string "1e9223372036854775807")]) = .error .overflow := by
  let l : Literal := ⟨false, ['1'], [], 9223372036854775807⟩
  have spelled : l.Spells "1e9223372036854775807".toList := read?_eq_some_iff.mp (by decide +kernel)
  have long : l.Overlong := ⟨by decide, by decide, by decide⟩
  exact ⟨l, spelled, long.value_ne spelled.proper, by decide +kernel⟩

end Typing
end RecordDirectory
