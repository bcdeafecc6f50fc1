import RecordDirectory.Proofs.Session.History
import RecordDirectory.Proofs.Store.FieldByField
import RecordDirectory.Proofs.Typing

namespace RecordDirectory

/-!
# Conformance of records

A record is typed and checked once, when it is written.  Afterwards its directory may get other fields
and the records that it refers to may be deleted, and nothing touches the record then.  So a stored
record conforms to the fields that it was last written under, and its references are to records that
either are gone or belong to the directory that the field pointed at.

The second part needs that an id is never handed out twice and that no record changes its owner.  This is
`Tables.Follows`, and every effect has it.
-/

namespace Tables

/-- Values as they have to be under fields, with references that these tables bear out as far as they
still have the records. -/
structure Conforms (t : Tables) (fields : List FieldDefinition) (values : Values) : Prop where
  keys : ∀ name, name ∈ values.keys ↔ name ∈ fields.map FieldDefinition.name
  kind : ∀ field ∈ fields, ∃ value, values.get? field.name = some value ∧ value.type = field.type
  text : ∀ name s, values.get? name = some (.text s) → s ≠ "" ∧ Text.trim s = s
  reference : ∀ field ∈ fields, field.type = .reference → ∃ target id, field.target = some target ∧
    values.get? field.name = some (.reference id) ∧ 1 ≤ id.number ∧ id.number ≤ t.lastRecordId ∧
    ∀ record, t.records.get? id = some record → record.directory = target

/-- Of the ids handed out so far, the later tables hold no record with another owner than before. -/
structure Follows (t after : Tables) : Prop where
  count : t.lastRecordId ≤ after.lastRecordId
  owner : ∀ {id later}, id.number ≤ t.lastRecordId → after.records.get? id = some later →
    ∃ earlier, t.records.get? id = some earlier ∧ earlier.directory = later.directory

variable {t after : Tables}

theorem Follows.of_records_eq (records : after.records = t.records)
    (count : after.lastRecordId = t.lastRecordId) : Follows t after where
  count := Int.le_of_eq count.symm
  owner _ stored := ⟨_, records ▸ stored, rfl⟩

theorem Follows.of_descends (kept : Descends t after) : Follows t after where
  count := Int.le_of_eq kept.record_count.symm
  owner _ stored := by
    rcases kept.record stored with ⟨earlier, found, _, sameOwner⟩
    exact ⟨earlier, found, sameOwner⟩

theorem Follows.createDirectory (t : Tables) (code : DirectoryCode) (draft : DirectoryDraft) :
    Follows t (t.createDirectory code draft).2 := by
  refine .of_records_eq (t.createDirectory_records code draft) ?_
  unfold Tables.createDirectory
  split <;> rfl

/-- The new record has an id that was not handed out. -/
theorem Follows.createRecord (t : Tables) (owner : DirectoryId) (values : Values) :
    Follows t (t.createRecord owner values).2 := by
  unfold Tables.createRecord
  split
  · refine ⟨Int.le_add_one (Int.le_refl _), fun {id later} known stored => ?_⟩
    simp only [Keyed.get?_insert, nextRecord] at stored
    rw [if_neg] at stored
    · exact ⟨later, stored, rfl⟩
    · rintro rfl
      simp only at known
      omega
  · exact .of_descends (.refl t)

theorem Conforms.mono {fields : List FieldDefinition} {values : Values}
    (conforms : t.Conforms fields values) (follows : Follows t after) : after.Conforms fields values := by
  refine { conforms with reference := fun field listed kind => ?_ }
  rcases conforms.reference field listed kind with ⟨target, id, selected, held, positive, known, owned⟩
  refine ⟨target, id, selected, held, positive, Int.le_trans known follows.count, fun record stored => ?_⟩
  rcases follows.owner known stored with ⟨earlier, found, sameOwner⟩
  exact sameOwner.symm.trans (owned earlier found)

/-- What has been typed and checked under the fields of a well-shaped directory conforms to them. -/
theorem conforms_of_accepts {name : String} {fields : List FieldDefinition} {raw : RawValues}
    {values : Values} (sound : t.Sound) (shape : WellShaped name fields)
    (accepted : t.Accepts fields raw values) : t.Conforms fields values := by
  have typedAs : ∀ field ∈ fields, ∀ value, values.get? field.name = some value →
      value.type = field.type := by
    intro field listed value held
    rcases Typing.typeField_of_get? accepted.typed held with ⟨other, otherListed, sameName, otherTyped⟩
    rw [← shape.eq_of_name_eq otherListed listed sameName]
    exact (Typing.typeField_normal otherTyped).1
  refine ⟨fun key => ?_, fun field listed => ?_, fun key s held => ?_, fun field listed kind => ?_⟩
  · rw [Keyed.mem_keys_iff, Option.isSome_iff_exists, List.mem_map]
    constructor
    · rintro ⟨value, held⟩
      rcases Typing.typeField_of_get? accepted.typed held with ⟨field, listed, named, _⟩
      exact ⟨field, listed, named⟩
    · rintro ⟨field, listed, rfl⟩
      exact Typing.get?_isSome_of_typeValues accepted.typed listed
  · rcases Typing.get?_isSome_of_typeValues accepted.typed listed with ⟨value, held⟩
    exact ⟨value, held, typedAs field listed value held⟩
  · rcases Typing.typeField_of_get? accepted.typed held with ⟨_, _, _, typed⟩
    exact (Typing.typeField_normal typed).2
  · rcases Typing.get?_isSome_of_typeValues accepted.typed listed with ⟨value, held⟩
    have typed := typedAs field listed value held
    rw [kind] at typed
    cases value with
    | text | number => cases typed
    | reference id =>
        rcases owned_of_referenceFault?_eq_none accepted.faultless listed held with
          ⟨target, record, pointed, stored, owned⟩
        have bound := sound.record_bound stored
        refine ⟨target, id, ?_, held, bound.1, bound.2, fun other found => ?_⟩
        · rw [← shape.referenceTarget?_eq listed, pointed]
        · rw [stored] at found
          cases found
          exact owned

/-- Every stored record conforms to the fields that it was last written under. -/
def Conforming (t : Tables) (history : List Operation) : Prop :=
  ∀ id record, t.records.get? id = some record →
    ∃ fields, lastFields? record.id history = some fields ∧ t.Conforms fields record.values

end Tables

/-! ## What one operation keeps -/

namespace Effect

variable {t after : Tables} {operation : Operation} {outcome : Outcome}

theorem follows (effect : Effect t operation outcome after) : Tables.Follows t after := by
  cases effect with
  | kept => exact .of_descends (.refl t)
  | directoryCreated => exact .createDirectory t _ _
  | directoryUpdated => exact .of_descends (.updateDirectory t _)
  | recordCreated => exact .createRecord t _ _
  | recordUpdated => exact .of_descends (.updateRecord t _ _)
  | recordDeleted => exact .of_descends (.deleteRecord t _)

theorem writtenFields?_of_kept (idle : operation.isWrite = true → ∃ stop, outcome = .error stop)
    (id : RecordId) : writtenFields? t id operation outcome = none := by
  cases writes : operation.isWrite with
  | true =>
      rcases idle writes with ⟨stop, rfl⟩
      cases operation <;> rfl
  | false =>
      cases operation with
      | createRecord | updateRecord => cases writes
      | createDirectory | updateDirectory | getDirectory | listDirectories | getRecord | deleteRecord
      | listRecords | listAllRecords | checkCreation | checkChange | checkValues | store => rfl

/-- A record in the later tables was just written under the fields of its directory, or it is there
already and is not written by this operation. -/
theorem written_or_kept (effect : Effect t operation outcome after) (sound : t.Sound) {id : RecordId}
    {record : Record} (stored : after.records.get? id = some record) :
    (∃ directory raw, t.directories.get? record.directory = some directory ∧
      t.Accepts directory.fields raw record.values ∧
      writtenFields? t record.id operation outcome = some directory.fields) ∨
    (t.records.get? id = some record ∧ writtenFields? t record.id operation outcome = none) := by
  cases effect with
  | kept idle => exact .inr ⟨stored, writtenFields?_of_kept idle record.id⟩
  | directoryCreated =>
      rw [Tables.createDirectory_records] at stored
      exact .inr ⟨stored, rfl⟩
  | directoryUpdated =>
      rw [Tables.updateDirectory_records] at stored
      exact .inr ⟨stored, rfl⟩
  | @recordCreated owner raw directory values found accepted =>
      have present : t.directories.contains owner = true := Keyed.contains_iff.mpr ⟨_, found⟩
      simp only [Tables.createRecord, present, if_true, Keyed.get?_insert] at stored
      split at stored
      · cases stored
        refine .inl ⟨directory, raw, found, accepted, ?_⟩
        simp [writtenFields?, Tables.nextRecord, found]
      · next different =>
        refine .inr ⟨stored, ?_⟩
        simp only [writtenFields?, sound.record_id stored, if_neg (Ne.symm different)]
  | @recordUpdated changed raw earlier directory values found owned accepted =>
      simp only [Tables.updateRecord, found, Keyed.get?_insert] at stored
      split at stored
      · cases stored
        refine .inl ⟨directory, raw, owned, accepted, ?_⟩
        simp [writtenFields?, owned]
      · next different =>
        refine .inr ⟨stored, ?_⟩
        rw [sound.record_id stored]
        simp only [writtenFields?, sound.record_id found, if_neg (Ne.symm different)]
  | @recordDeleted deleted earlier found =>
      refine .inr ⟨?_, rfl⟩
      have present : t.records.contains deleted = true := Keyed.contains_iff.mpr ⟨_, found⟩
      simp only [Tables.deleteRecord, present, if_true, Keyed.get?_erase] at stored
      split at stored
      · cases stored
      · exact stored

end Effect

/-! ## Whole runs -/

namespace Tables

/-- What is known of the tables after operations, all parts of which are needed to go on. -/
structure Valid (history : List Operation) : Prop where
  sound : (tablesAfter history).Sound
  schema : (tablesAfter history).SchemaIntact
  records : (tablesAfter history).Conforming history

theorem valid_nil : Valid [] where
  sound := sound_empty
  schema := schemaIntact_empty
  records _ _ stored := by cases stored

theorem Valid.cons {operation : Operation} {history : List Operation} (valid : Valid history)
    (guarded : operation.isGuarded = true) : Valid (operation :: history) := by
  have effect : Effect (tablesAfter history) operation (outcomeAfter operation history)
      (tablesAfter (operation :: history)) := Operation.effect_run valid.sound guarded
  refine ⟨?_, ?_, fun id record stored => ?_⟩
  · exact effect.preserves Sound (fun c _ => valid.sound.answer c) valid.sound
  · exact effect.preserves SchemaIntact (fun c admitted => valid.schema.answer valid.sound admitted)
      valid.schema
  · rcases effect.written_or_kept valid.sound stored with
      ⟨directory, raw, found, accepted, written⟩ | ⟨found, unwritten⟩
    · have shape := (valid.schema _ _ found).shape
      refine ⟨directory.fields, ?_, (conforms_of_accepts valid.sound shape accepted).mono effect.follows⟩
      rw [lastFields?, written]
      rfl
    · rcases valid.records id record found with ⟨fields, last, conforms⟩
      refine ⟨fields, ?_, conforms.mono effect.follows⟩
      rw [lastFields?, unwritten, last]
      rfl

theorem valid_of_guarded {history : List Operation}
    (guarded : ∀ operation ∈ history, operation.isGuarded = true) : Valid history := by
  induction history with
  | nil => exact valid_nil
  | cons operation earlier inductionHypothesis =>
      rcases List.forall_mem_cons.mp guarded with ⟨latest, rest⟩
      exact (inductionHypothesis rest).cons latest

end Tables

namespace Session

/-- After a run without bare writes of the store, every record conforms to the fields that it was last
written under, by the operations that have not been taken back.  The same holds of what is committed. -/
theorem conforming_of_guarded_run {steps : List Step} (guarded : ∀ step ∈ steps, step.isGuarded = true) :
    (start.steps steps).2.committed.Conforming (History.start.steps steps).committed ∧
      (start.steps steps).2.working.Conforming (History.start.steps steps).working := by
  have survive := History.guarded_start.steps guarded
  have leads : (History.start.steps steps).session = (start.steps steps).2 :=
    History.session_steps History.start steps
  rw [← leads]
  exact ⟨(Tables.valid_of_guarded survive.committed).records, (Tables.valid_of_guarded survive.working).records⟩

/-- A record that refers to another one, which is deleted, and whose directory then loses its field.  A
second change of the record is taken back. -/
def outdatedSteps : List Step :=
  [.run (.createDirectory default ⟨"Person", []⟩),
    .run (.createDirectory .ones ⟨"Company", [⟨"Owner", .reference, some ⟨1⟩⟩]⟩),
    .run (.createRecord ⟨1⟩ .empty),
    .run (.createRecord ⟨2⟩ (.ofList [("Owner", .string " 1 ")])),
    .run (.updateDirectory ⟨2⟩ ⟨"Company", []⟩),
    .commit,
    .run (.updateRecord ⟨2⟩ .empty),
    .rollback,
    .run (.deleteRecord ⟨1⟩)]

theorem conforming_of_outdated_run :
    (start.steps outdatedSteps).2.working.records.values =
        [⟨⟨2⟩, ⟨2⟩, .ofList [("Owner", .reference ⟨1⟩)]⟩] ∧
      lastFields? ⟨2⟩ (History.start.steps outdatedSteps).working =
        some [⟨"Owner", .reference, some ⟨1⟩⟩] ∧
      (start.steps outdatedSteps).2.committed.Conforming (History.start.steps outdatedSteps).committed ∧
      (start.steps outdatedSteps).2.working.Conforming (History.start.steps outdatedSteps).working :=
  ⟨by decide +kernel, by decide +kernel, conforming_of_guarded_run (by decide)⟩

end Session
end RecordDirectory
