import RecordDirectory.Proofs.Decimal.Literal
import RecordDirectory.Proofs.Keyed.Values
import RecordDirectory.Proofs.Typing

namespace RecordDirectory

/-!
# Typing the plain form of values

The plain form of a typed value is input of its own, and typing it under the same field gives the value
again: a text has been trimmed already, a number is written with all of its places, and a reference is a
whole number that fits.  So typing twice is typing once (`typeValues_plain`).

Of several fields with one name only the last leaves its value behind, and the others would then be typed
from a value that is not theirs.  This is why names have to be distinct.
-/

namespace Text

/-- A text without blanks has none to trim. -/
theorem trimChars_of_no_blank {cs : List Char} (solid : ∀ c ∈ cs, isBlank c = false) :
    trimChars cs = cs := by
  have kept (l : List Char) (within : ∀ c ∈ l, isBlank c = false) : l.dropWhile isBlank = l := by
    cases l with
    | nil => rfl
    | cons c rest => rw [List.dropWhile_cons_of_neg (by simp [within c List.mem_cons_self])]
  rw [trimChars, kept cs solid, trimEnd, kept cs.reverse fun c listed => solid c (List.mem_reverse.mp listed),
    List.reverse_reverse]

end Text

namespace Decimal

theorem isBlank_of_isDigit {c : Char} (digit : c.isDigit = true) : Text.isBlank c = false := by
  have bounds := Char.isDigit_iff_toNat.mp digit
  have lower : 48 ≤ c.toNat := bounds.1
  have upper : c.toNat ≤ 57 := bounds.2
  simp only [Text.isBlank, Bool.or_eq_false_iff, Bool.and_eq_false_iff, decide_eq_false_iff_not,
    beq_eq_false_iff_ne]
  omega

/-- There is no blank in the text of a decimal. -/
theorem isBlank_of_mem_write {d : Decimal} {c : Char} (listed : c ∈ d.write) : Text.isBlank c = false := by
  rcases writeDigits_eq d.coefficient.natAbs d.scale with
    ⟨whole, fraction, written, _, _, wholeDigits, fractionDigits, _⟩
  have inDigits (within : c ∈ writeDigits d.coefficient.natAbs d.scale) : Text.isBlank c = false := by
    rw [written] at within
    rcases List.mem_append.mp within with inWhole | behind
    · exact isBlank_of_isDigit (List.all_eq_true.mp wholeDigits c inWhole)
    · split at behind
      · cases behind
      · rcases List.mem_cons.mp behind with rfl | inFraction
        · decide
        · exact isBlank_of_isDigit (List.all_eq_true.mp fractionDigits c inFraction)
  unfold write at listed
  dsimp only at listed
  split at listed
  · rcases List.mem_cons.mp listed with rfl | within
    · decide
    · exact inDigits within
  · exact inDigits listed

end Decimal

namespace FieldValue

theorem isNull_plain (value : FieldValue) : value.plain.isNull = false := by
  cases value <;> rfl

/-- The number in a value is bare, if there is one. -/
def Bare : FieldValue → Prop
  | number d => d.Bare
  | text _ | reference _ => True

end FieldValue

namespace Typing

/-! ## What typing makes of a number is bare -/

theorem bare_of_decimalOf {json : Json} {d : Decimal} (converted : decimalOf json = .ok d) : d.Bare := by
  cases json with
  | integer n =>
      simp only [decimalOf, wholeDecimal] at converted
      split at converted
      · next parts =>
        cases converted
        exact fun _ => (Decimal.ofParts?_eq_some_iff.mp parts).2
      · cases converted
  | float x => exact Decimal.bare_of_ofLiteral converted
  | string s => exact Decimal.bare_of_ofLiteral converted
  | null | bool | array | object => cases converted

theorem bare_of_typeField {raw : RawValues} {field : FieldDefinition} {value : FieldValue}
    (typed : typeField raw field = .ok value) : value.Bare := by
  cases value with
  | text | reference => trivial
  | number d =>
      have kind : FieldType.number = field.type := (typeField_normal typed).1
      simp only [typeField, ← kind] at typed
      cases given : input? raw field.name with
      | none =>
          rw [given] at typed
          cases typed
      | some json =>
          rw [given] at typed
          simp only [numberValue] at typed
          split at typed
          · next converted =>
            cases typed
            exact bare_of_decimalOf converted
          · cases typed
          · cases typed

/-! ## Typing again -/

theorem textValue_plain {s : String} (nonempty : s ≠ "") (trimmed : Text.trim s = s) (field : String) :
    textValue field (some (.string s)) = .ok (.text s) := by
  have kept : trimmedText (.string s) = s := trimmed
  simp only [textValue, kept, String.isEmpty_iff, nonempty, if_false]

theorem numberValue_plain {d : Decimal} (bare : d.Bare) (field : String) :
    numberValue field (some (.string d.text)) = .ok (.number d) := by
  have converted : decimalOf (.string d.text) = .ok d := by
    rw [decimalOf, Decimal.text, String.toList_ofList,
      Text.trimChars_of_no_blank fun c listed => Decimal.isBlank_of_mem_write listed]
    exact Decimal.ofLiteral_write bare
  simp only [numberValue, converted]

theorem referenceValue_plain {id : RecordId} (fits : Numeral.fitsSigned64 id.number = true) (field : String) :
    referenceValue field (some (.integer id.number)) = .ok (.reference id) := by
  simp only [referenceValue, idOf?, fits, if_true]

/-- A typed value is what typing makes of its plain form, under the same field. -/
theorem typeField_plain {raw again : RawValues} {field : FieldDefinition} {value : FieldValue}
    (typed : typeField raw field = .ok value) (given : again.get? field.name = some value.plain) :
    typeField again field = .ok value := by
  rcases typeField_normal typed with ⟨kind, normal⟩
  have bare := bare_of_typeField typed
  have input : input? again field.name = some value.plain := by
    rw [input?, given]
    exact Option.filter_some_pos (by simp [value.isNull_plain])
  unfold typeField at typed ⊢
  dsimp only at typed ⊢
  rw [input, ← kind]
  cases value with
  | text s => exact textValue_plain normal.1 normal.2 field.name
  | number d => exact numberValue_plain bare field.name
  | reference id =>
      rw [← kind] at typed
      dsimp only [FieldValue.type] at typed ⊢
      split at typed
      · cases typed
      · next pointed =>
        rw [if_neg pointed]
        exact referenceValue_plain normal field.name

/-- Fields are typed again one by one, where each finds the plain form of its own value. -/
theorem typeFields_plain {raw again : RawValues} {fields : List FieldDefinition}
    {pairs : List (String × FieldValue)} (typed : typeFields raw fields = .ok pairs)
    (given : ∀ pair ∈ pairs, again.get? pair.1 = some pair.2.plain) :
    typeFields again fields = .ok pairs := by
  induction fields generalizing pairs with
  | nil => exact typed
  | cons field rest inductionHypothesis =>
      simp only [typeFields] at typed
      split at typed
      · cases typed
      · next value valueTyped =>
        split at typed
        · cases typed
        · next later restTyped =>
          cases typed
          rcases List.forall_mem_cons.mp given with ⟨first, others⟩
          simp only [typeFields, typeField_plain valueTyped first, inductionHypothesis restTyped others]

/-- The plain form of typed values holds that of each field's own value, where names are distinct. -/
theorem get?_plain_of_typeFields {raw : RawValues} {fields : List FieldDefinition}
    {pairs : List (String × FieldValue)} (distinct : (fields.map FieldDefinition.name).Nodup)
    (typed : typeFields raw fields = .ok pairs) {pair : String × FieldValue} (listed : pair ∈ pairs) :
    (Values.plain (.ofList pairs)).get? pair.1 = some pair.2.plain := by
  rw [← (typeFields_spec typed).1] at distinct
  rw [Values.plain, Keyed.get?_mapValues, Keyed.get?_ofList_of_mem distinct listed, Option.map_some]

/-- Typing the plain form of typed values gives the same values, each number with the same scale. -/
theorem typeValues_plain {fields : List FieldDefinition} {raw : RawValues} {values : Values}
    (distinct : (fields.map FieldDefinition.name).Nodup) (typed : typeValues fields raw = .ok values) :
    typeValues fields values.plain = .ok values := by
  rcases typeValues_eq_ofList typed with ⟨pairs, listed, rfl⟩
  have again := typeFields_plain listed fun pair => get?_plain_of_typeFields distinct listed
  rw [typeValues, again]
  rfl

def mixedFields : List FieldDefinition :=
  [⟨"Tags", .text, none⟩, ⟨"Rate", .number, none⟩, ⟨"Total", .number, none⟩, ⟨"Mass", .number, none⟩,
    ⟨"Rest", .number, none⟩, ⟨"Owner", .reference, some ⟨1⟩⟩]

/-- A text made of a list, a number with all its places, one with as many digits as there can be, one that
is written with an exponent, zero, and a reference with a fraction to drop. -/
def mixedInput : RawValues :=
  .ofList [("Tags", .array [.integer 1, .string " a"]), ("Rate", .string " -0.0000000000000000000000001200 "),
    ("Total", .string "79228162514264337593543950335"), ("Mass", .float ⟨false, 7629394531250000, 17⟩),
    ("Rest", .string "-0.00e5"), ("Owner", .float ⟨true, 6192449487634432, -50⟩)]

def mixedValues : Values :=
  .ofList [("Tags", .text "[1,\" a\"]"), ("Rate", .number ⟨-1200, 28, by decide, by decide⟩),
    ("Total", .number ⟨79228162514264337593543950335, 0, by decide, Nat.zero_le _⟩),
    ("Mass", .number ⟨1000000000000000000000, 0, by decide, Nat.zero_le _⟩), ("Rest", .number .zero),
    ("Owner", .reference ⟨-5⟩)]

theorem typeValues_plain_mixed :
    typeValues mixedFields mixedInput = .ok mixedValues ∧
      typeValues mixedFields mixedValues.plain = .ok mixedValues :=
  have typed : typeValues mixedFields mixedInput = .ok mixedValues := by decide +kernel
  ⟨typed, typeValues_plain (by decide) typed⟩

end Typing
end RecordDirectory
