import RecordDirectory.Proofs.Session.Conformance

namespace RecordDirectory

/-!
# References lead out of a directory

No check compares a record with what it refers to, and still no stored record refers to itself or to a
record of its own directory.  When a record is written, its references are borne out by records of the
directories that the fields point at, and a field does not point at its own directory.  Later on the fields
may be pointed elsewhere, but a record keeps its owner, and an id that was deleted does not come back.  So
what holds of a record when it is written holds of it in all later tables (`Outward.mono`).

Two records may well refer to one another, as long as they are of different directories.
-/

namespace Tables

/-- The references of a record name ids that were handed out, and none of its own directory. -/
structure Outward (t : Tables) (record : Record) : Prop where
  known : ∀ {name id}, record.values.get? name = some (.reference id) → id.number ≤ t.lastRecordId
  foreign : ∀ {name id other}, record.values.get? name = some (.reference id) →
    t.records.get? id = some other → other.directory ≠ record.directory

/-- The references of all stored records lead out of their directories. -/
def ReferencesOutward (t : Tables) : Prop :=
  ∀ id record, t.records.get? id = some record → t.Outward record

variable {t after : Tables}

theorem Outward.mono {record : Record} (outward : t.Outward record) (follows : Follows t after) :
    after.Outward record where
  known held := Int.le_trans (outward.known held) follows.count
  foreign held stored := by
    rcases follows.owner (outward.known held) stored with ⟨earlier, found, sameOwner⟩
    exact sameOwner ▸ outward.foreign held found

/-- A record whose values were accepted under the fields of its directory. -/
theorem outward_of_accepts (sound : t.Sound) (intact : t.SchemaIntact) {record : Record}
    {directory : Directory} {raw : RawValues} (found : t.directories.get? record.directory = some directory)
    (accepted : t.Accepts directory.fields raw record.values) : t.Outward record := by
  -- Each reference is that of a field, whose target is the owner of what it names.
  have borneOut : ∀ {name id}, record.values.get? name = some (.reference id) →
      ∃ other, t.records.get? id = some other ∧ other.directory ≠ record.directory := by
    intro name id held
    rcases Typing.typeField_of_get? accepted.typed held with ⟨field, listed, rfl, _⟩
    rcases owned_of_referenceFault?_eq_none accepted.faultless listed held with
      ⟨target, other, pointed, stored, owned⟩
    refine ⟨other, stored, ?_⟩
    intro sameOwner
    have whole := intact _ _ found
    have selected : field.target = some directory.id := by
      rw [← whole.shape.referenceTarget?_eq listed, pointed, ← owned, sameOwner, sound.directory_id found]
    exact whole.target_foreign field listed selected
  refine ⟨fun held => ?_, fun held stored => ?_⟩
  · rcases borneOut held with ⟨other, stored, _⟩
    exact (sound.record_bound stored).2
  · rcases borneOut held with ⟨other, alsoStored, foreign⟩
    rw [stored] at alsoStored
    cases alsoStored
    exact foreign

theorem ReferencesOutward.of_effect (outward : t.ReferencesOutward) (sound : t.Sound)
    (intact : t.SchemaIntact) {operation : Operation} {outcome : Outcome}
    (effect : Effect t operation outcome after) : after.ReferencesOutward := by
  intro id record stored
  rcases effect.written_or_kept sound stored with ⟨directory, raw, found, accepted, _⟩ | ⟨kept, _⟩
  · exact (outward_of_accepts sound intact found accepted).mono effect.follows
  · exact (outward id record kept).mono effect.follows

/-- A stored record does not name itself, since it is in its own directory. -/
theorem Outward.ne_self {record : Record} (outward : t.Outward record)
    (stored : t.records.get? record.id = some record) {name : String} {id : RecordId}
    (held : record.values.get? name = some (.reference id)) : id ≠ record.id := by
  rintro rfl
  exact outward.foreign held stored rfl

/-- What keeps references outward through a run: the schema decides where a new reference may lead, and
soundness that it leads there for good. -/
structure Separated (t : Tables) : Prop where
  sound : t.Sound
  schema : t.SchemaIntact
  references : t.ReferencesOutward

theorem separated_empty : empty.Separated where
  sound := sound_empty
  schema := schemaIntact_empty
  references _ _ stored := by cases stored

theorem Separated.run (separated : t.Separated) {operation : Operation}
    (guarded : operation.isGuarded = true) : (operation.task.run Tables.answer t).2.Separated := by
  have effect := Operation.effect_run separated.sound guarded
  refine ⟨?_, ?_, separated.references.of_effect separated.sound separated.schema effect⟩
  · exact effect.preserves Sound (fun c _ => separated.sound.answer c) separated.sound
  · exact effect.preserves SchemaIntact (fun c admitted => separated.schema.answer separated.sound admitted)
      separated.schema

/-- The stored records themselves, without the keys that they are stored under. -/
theorem Separated.apart (separated : t.Separated) {record : Record} (listed : record ∈ t.records.values)
    {name : String} {id : RecordId} (held : record.values.get? name = some (.reference id)) :
    id ≠ record.id ∧ ∀ other ∈ t.records.values, other.id = id → other.directory ≠ record.directory := by
  have stored := separated.sound.get?_of_mem_records listed
  have outward := separated.references _ _ stored
  refine ⟨outward.ne_self stored held, ?_⟩
  intro other otherListed named
  have otherStored := separated.sound.get?_of_mem_records otherListed
  rw [named] at otherStored
  exact outward.foreign held otherStored

end Tables

namespace Session

/-- After a run without bare writes of the store, no record refers to itself or to a record of its own
directory.  The same holds of what is committed. -/
theorem apart_of_guarded_run {steps : List Step} (guarded : ∀ step ∈ steps, step.isGuarded = true) :
    (start.steps steps).2.Satisfies fun t => ∀ record ∈ t.records.values, ∀ name id,
      record.values.get? name = some (.reference id) → id ≠ record.id ∧
        ∀ other ∈ t.records.values, other.id = id → other.directory ≠ record.directory := by
  have atStart : start.Satisfies Tables.Separated := ⟨Tables.separated_empty, Tables.separated_empty⟩
  have holds := atStart.steps (fun _ _ operationGuarded separated => separated.run operationGuarded) guarded
  exact ⟨fun _ listed _ _ => holds.committed.apart listed, fun _ listed _ _ => holds.working.apart listed⟩

/-- Records of two directories that refer to one another, the first of which has been pointed elsewhere
since.  What a third one refers to is deleted. -/
def retargetedSteps : List Step :=
  [.run (.createDirectory default ⟨"Person", []⟩),
    .run (.createDirectory .ones ⟨"Company", [⟨"Owner", .reference, some ⟨1⟩⟩]⟩),
    .run (.createRecord ⟨1⟩ .empty),
    .run (.createRecord ⟨2⟩ (.ofList [("Owner", .integer 1)])),
    .run (.updateDirectory ⟨1⟩ ⟨"Person", [⟨"Employer", .reference, some ⟨2⟩⟩]⟩),
    .run (.updateRecord ⟨1⟩ (.ofList [("Employer", .string "2")])),
    .commit,
    .run (.updateDirectory ⟨2⟩ ⟨"Company", []⟩),
    .run (.createRecord ⟨1⟩ (.ofList [("Employer", .integer 2)])),
    .run (.deleteRecord ⟨2⟩),
    .run (.createRecord ⟨1⟩ (.ofList [("Employer", .integer 3)]))]

theorem apart_of_retargeted_run :
    (start.steps retargetedSteps).2.committed.records.values.map Record.values =
        [.ofList [("Employer", .reference ⟨2⟩)], .ofList [("Owner", .reference ⟨1⟩)]] ∧
      (start.steps retargetedSteps).2.working.records.values.map Record.id = [⟨1⟩, ⟨3⟩] ∧
      (start.steps retargetedSteps).2.Satisfies fun t => ∀ record ∈ t.records.values, ∀ name id,
        record.values.get? name = some (.reference id) → id ≠ record.id ∧
          ∀ other ∈ t.records.values, other.id = id → other.directory ≠ record.directory :=
  ⟨by decide +kernel, by decide +kernel, apart_of_guarded_run (by decide)⟩

end Session
end RecordDirectory
