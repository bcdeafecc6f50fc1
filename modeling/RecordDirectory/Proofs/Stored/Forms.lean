import RecordDirectory.Proofs.Keyed
import RecordDirectory.Proofs.Stored.Decimal
import RecordDirectory.Proofs.Typing
import RecordDirectory.Wire.Record

namespace RecordDirectory

/-!
# Stored forms read back

Values and field definitions are stored as JSON.  Both read back as they were written, provided that the
ids in them fit 64 bits: the JSON of a greater number is written, but not read as an id.  The values that
typing gives are normal, so theirs do fit.
-/

namespace FieldValue

/-- A reference is to an id of 64 bits. -/
def Fits : FieldValue → Prop
  | reference id => Numeral.fitsSigned64 id.number = true
  | text _ | number _ => True

theorem Normal.fits {value : FieldValue} (normal : value.Normal) : value.Fits := by
  cases value with
  | text | number => trivial
  | reference => exact normal

theorem ofJson?_toJson {value : FieldValue} (fits : value.Fits) : ofJson? value.toJson = some value := by
  cases value with
  | text s => rfl
  | number d =>
      change (Decimal.read? d.text).map number = _
      rw [Decimal.read?_text]
      rfl
  | reference id =>
      change (RecordId.ofJson? (.integer id.number)).map reference = _
      have idFits : Numeral.fitsSigned64 id.number = true := fits
      simp [RecordId.ofJson?, Json.signed64?, Json.integer?, Option.filter, idFits]

end FieldValue

namespace Values

/-- All references are to ids of 64 bits. -/
def Fits (values : Values) : Prop :=
  ∀ name value, values.get? name = some value → value.Fits

theorem ofMembers?_map {entries : List (String × FieldValue)} (fits : ∀ entry ∈ entries, entry.2.Fits) :
    ofMembers? (entries.map fun entry => (entry.1, entry.2.toJson)) = some entries := by
  induction entries with
  | nil => rfl
  | cons entry rest inductionHypothesis =>
      rcases List.forall_mem_cons.mp fits with ⟨first, later⟩
      rw [List.map_cons, ofMembers?, FieldValue.ofJson?_toJson first, inductionHypothesis later]

/-- Values read back, each under its name. -/
theorem ofJson?_toJson {values : Values} (fits : values.Fits) : ofJson? values.toJson = some values := by
  have each : ∀ entry ∈ values.entries, entry.2.Fits := by
    intro entry listed
    exact fits entry.1 entry.2 (Keyed.mem_entries_iff.mp listed)
  change (ofMembers? (values.entries.map fun entry => (entry.1, entry.2.toJson))).map Keyed.ofList = _
  rw [ofMembers?_map each, Option.map_some, Keyed.ofList_entries]

end Values

/-- A list reads back if its items do. -/
theorem Json.readAll?_map {α : Type} {write : α → Json} {read? : Json → Option α} {items : List α}
    (each : ∀ a ∈ items, read? (write a) = some a) : readAll? read? (items.map write) = some items := by
  induction items with
  | nil => rfl
  | cons a rest inductionHypothesis =>
      rcases List.forall_mem_cons.mp each with ⟨first, later⟩
      rw [List.map_cons, readAll?, first, inductionHypothesis later]

namespace FieldDefinition

/-- The target of a field is an id of 64 bits, if there is one. -/
def TargetFits (field : FieldDefinition) : Prop :=
  ∀ target, field.target = some target → Numeral.fitsSigned64 target.number = true

theorem ofJson?_toJson {field : FieldDefinition} (fits : field.TargetFits) (empty : Json → Bool) :
    ofJson? empty field.toJson = some field := by
  rcases field with ⟨name, type, target⟩
  have typeRead : FieldType.ofJson? empty type.toJson = some type := FieldType.ofName?_name type
  cases target with
  | none =>
      change (do
        let type ← FieldType.ofJson? empty type.toJson
        some (⟨name, type, none⟩ : FieldDefinition)) = _
      rw [typeRead]
      rfl
  | some id =>
      have idFits : Numeral.fitsSigned64 id.number = true := fits id rfl
      have idRead : DirectoryId.ofJson? id.toJson = some id := by
        simp [DirectoryId.ofJson?, DirectoryId.toJson, Json.signed64?, Json.integer?, Option.filter, idFits]
      change (do
        let type ← FieldType.ofJson? empty type.toJson
        let target ← (DirectoryId.ofJson? id.toJson).map some
        some (⟨name, type, target⟩ : FieldDefinition)) = _
      rw [typeRead, idRead]
      rfl

/-- A list of fields with targets of 64 bits reads back. -/
theorem listOf?_listToJson {fields : List FieldDefinition} (fits : ∀ field ∈ fields, field.TargetFits)
    (empty : Json → Bool) : Json.listOf? (ofJson? empty) (listToJson fields) = some fields :=
  Json.readAll?_map fun field listed => ofJson?_toJson (fits field listed) empty

theorem listOfJson?_listToJson {fields : List FieldDefinition} (fits : ∀ field ∈ fields, field.TargetFits) :
    listOfJson? (listToJson fields) = some fields :=
  listOf?_listToJson fits Json.isNull

end FieldDefinition
end RecordDirectory
