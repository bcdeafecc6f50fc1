import RecordDirectory.Proofs.Keyed
import RecordDirectory.Typing

namespace RecordDirectory

/-!
# What typing gives

Typed values are related to the fields in two directions: every key comes from a field that was typed on
its own (`typeField_of_get?`), and every field has a key (`get?_isSome_of_typeValues`).  Which of several
fields with one name is kept does not matter here, since the fields of a directory have distinct names.

A single typed value has the kind of its field.  A text is trimmed and not empty, and a reference is
within 64 bits and is typed only under a field with a target.
-/

/-- The type of the fields that a value may stand in. -/
def FieldValue.type : FieldValue → FieldType
  | text _ => .text
  | number _ => .number
  | reference _ => .reference

/-- What holds of a single value that typing gives. -/
def FieldValue.Normal : FieldValue → Prop
  | text s => s ≠ "" ∧ Text.trim s = s
  | number _ => True
  | reference id => Numeral.fitsSigned64 id.number = true

namespace Typing

private theorem trim_trimmedText (value : Json) : Text.trim (trimmedText value) = trimmedText value := by
  cases value <;> exact Text.trim_trim _

theorem textValue_normal {field : String} {input : Option Json} {value : FieldValue}
    (typed : textValue field input = .ok value) : value.type = .text ∧ value.Normal := by
  cases input with
  | none => cases typed
  | some json =>
      simp only [textValue] at typed
      split at typed
      · cases typed
      · next nonempty =>
        cases typed
        exact ⟨rfl, by simpa using nonempty, trim_trimmedText json⟩

theorem numberValue_normal {field : String} {input : Option Json} {value : FieldValue}
    (typed : numberValue field input = .ok value) : value.type = .number ∧ value.Normal := by
  cases input with
  | none => cases typed
  | some json =>
      simp only [numberValue] at typed
      split at typed <;> cases typed
      exact ⟨rfl, trivial⟩

private theorem fits_of_idOf? {json : Json} {id : RecordId} (read : idOf? json = some id) :
    Numeral.fitsSigned64 id.number = true := by
  cases json with
  | integer n =>
      simp only [idOf?, Option.ite_none_right_eq_some, Option.some.injEq] at read
      rcases read with ⟨fits, rfl⟩
      exact fits
  | float x =>
      simp only [idOf?, Option.ite_none_right_eq_some, Option.some.injEq] at read
      rcases read with ⟨fits, rfl⟩
      exact fits
  | string s =>
      simp only [idOf?, Numeral.readSigned64?, Option.map_eq_some_iff, Option.filter_eq_some_iff] at read
      rcases read with ⟨n, ⟨_, fits⟩, rfl⟩
      exact fits
  | null | bool | array | object => cases read

theorem referenceValue_normal {field : String} {input : Option Json} {value : FieldValue}
    (typed : referenceValue field input = .ok value) : value.type = .reference ∧ value.Normal := by
  cases input with
  | none => cases typed
  | some json =>
      simp only [referenceValue] at typed
      split at typed
      · next id read =>
        cases typed
        exact ⟨rfl, fits_of_idOf? read⟩
      · cases typed

/-- A typed value has the kind of its field and is normal. -/
theorem typeField_normal {raw : RawValues} {field : FieldDefinition} {value : FieldValue}
    (typed : typeField raw field = .ok value) : value.type = field.type ∧ value.Normal := by
  simp only [typeField] at typed
  split at typed
  · next kind =>
    rw [kind]
    exact textValue_normal typed
  · next kind =>
    rw [kind]
    exact numberValue_normal typed
  · next kind =>
    rw [kind]
    split at typed
    · cases typed
    · exact referenceValue_normal typed

/-- The list of typed values has the names of the fields, in their order, and each value is that of a
field typed on its own. -/
theorem typeFields_spec {raw : RawValues} {fields : List FieldDefinition}
    {pairs : List (String × FieldValue)} (typed : typeFields raw fields = .ok pairs) :
    pairs.map Prod.fst = fields.map FieldDefinition.name ∧
      ∀ pair ∈ pairs, ∃ field ∈ fields, field.name = pair.1 ∧ typeField raw field = .ok pair.2 := by
  induction fields generalizing pairs with
  | nil =>
      cases typed
      simp
  | cons field rest inductionHypothesis =>
      simp only [typeFields] at typed
      split at typed
      · cases typed
      · next value valueTyped =>
        split at typed
        · cases typed
        · next values restTyped =>
          cases typed
          rcases inductionHypothesis restTyped with ⟨names, each⟩
          constructor
          · simp [names]
          · intro pair listed
            rcases List.mem_cons.mp listed with rfl | later
            · exact ⟨field, List.mem_cons_self, rfl, valueTyped⟩
            · rcases each pair later with ⟨other, otherListed, named, otherTyped⟩
              exact ⟨other, List.mem_cons_of_mem _ otherListed, named, otherTyped⟩

theorem typeFields_cons_eq_error_iff {raw : RawValues} {head : FieldDefinition} {rest : List FieldDefinition}
    {value : FieldValue} {stop : Stop ValidationError} (first : typeField raw head = .ok value) :
    typeFields raw (head :: rest) = .error stop ↔ typeFields raw rest = .error stop := by
  rw [typeFields, first]
  dsimp only
  cases typeFields raw rest with
  | error other => exact Iff.rfl
  | ok values =>
      constructor
      · rintro ⟨⟩
      · rintro ⟨⟩

/-- Typing stops at the first field that is not typed, and with what stops this one. -/
theorem typeFields_eq_error_iff {raw : RawValues} {fields : List FieldDefinition} {stop : Stop ValidationError} :
    typeFields raw fields = .error stop ↔ ∃ before field after, fields = before ++ field :: after ∧
      (∀ other ∈ before, ∃ value, typeField raw other = .ok value) ∧ typeField raw field = .error stop := by
  induction fields with
  | nil =>
      constructor
      · rintro ⟨⟩
      · rintro ⟨before, _, _, split, _⟩
        exact absurd split (by simp)
  | cons head rest inductionHypothesis =>
      cases first : typeField raw head with
      | error other =>
          rw [typeFields, first]
          constructor
          · rintro ⟨⟩
            exact ⟨[], head, rest, rfl, fun _ listed => absurd listed List.not_mem_nil, first⟩
          · rintro ⟨before, field, after, split, typed, failed⟩
            cases before with
            | nil =>
                cases split
                rw [← first, failed]
            | cons earlier later =>
                cases split
                rcases typed head List.mem_cons_self with ⟨value, given⟩
                rw [first] at given
                cases given
      | ok value =>
          rw [typeFields_cons_eq_error_iff first, inductionHypothesis]
          constructor
          · rintro ⟨before, field, after, rfl, typed, failed⟩
            refine ⟨head :: before, field, after, rfl, fun other listed => ?_, failed⟩
            rcases List.mem_cons.mp listed with rfl | later
            · exact ⟨value, first⟩
            · exact typed other later
          · rintro ⟨before, field, after, split, typed, failed⟩
            cases before with
            | nil =>
                cases split
                rw [first] at failed
                cases failed
            | cons earlier later =>
                cases split
                refine ⟨later, field, after, rfl, fun other listed => ?_, failed⟩
                exact typed other (List.mem_cons_of_mem _ listed)

theorem typeValues_eq_ofList {raw : RawValues} {fields : List FieldDefinition} {values : Values}
    (typed : typeValues fields raw = .ok values) :
    ∃ pairs, typeFields raw fields = .ok pairs ∧ values = Keyed.ofList pairs := by
  unfold typeValues at typed
  cases listed : typeFields raw fields with
  | error stop =>
      rw [listed] at typed
      cases typed
  | ok pairs =>
      rw [listed] at typed
      cases typed
      exact ⟨pairs, rfl, rfl⟩

/-- Every typed value is that of a field with its name, typed on its own. -/
theorem typeField_of_get? {raw : RawValues} {fields : List FieldDefinition} {values : Values}
    (typed : typeValues fields raw = .ok values) {name : String} {value : FieldValue}
    (stored : values.get? name = some value) :
    ∃ field ∈ fields, field.name = name ∧ typeField raw field = .ok value := by
  rcases typeValues_eq_ofList typed with ⟨pairs, listed, rfl⟩
  rw [Keyed.get?_ofList] at stored
  have member := List.mem_reverse.mp (Keyed.mem_entries_of_lookup stored)
  exact (typeFields_spec listed).2 _ member

/-- Every field has a typed value. -/
theorem get?_isSome_of_typeValues {raw : RawValues} {fields : List FieldDefinition} {values : Values}
    (typed : typeValues fields raw = .ok values) {field : FieldDefinition} (member : field ∈ fields) :
    ∃ value, values.get? field.name = some value := by
  rcases typeValues_eq_ofList typed with ⟨pairs, listed, rfl⟩
  have named : field.name ∈ pairs.map Prod.fst := by
    rw [(typeFields_spec listed).1]
    exact List.mem_map_of_mem member
  rw [← Option.isSome_iff_exists, Keyed.isSome_get?_ofList]
  exact named

end Typing
end RecordDirectory
