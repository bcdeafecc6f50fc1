import RecordDirectory.Proofs.Keyed.Values
import RecordDirectory.Proofs.Store.Effect
import RecordDirectory.Proofs.Stored.Forms

namespace RecordDirectory

/-!
# Tables as lists

What a table in memory is when it is read as a list of its values: the ids ascend, there are no more values
than ids, and the writes replace, append and remove single values.

What an admitted call stores can be read back from its stored form.  Values fit because they have been typed.
The targets of fields fit because they are ids of this store, of which there are not too many.
-/

namespace Tables

variable {t : Tables}

/-- The ids that were handed out fit 64 bits. -/
structure IdsFit (t : Tables) : Prop where
  directory : t.lastDirectoryId < signedBound
  record : t.lastRecordId < signedBound

namespace Sound

theorem directories_carry (sound : t.Sound) : t.directories.CarriesKeys Directory.id :=
  Keyed.carriesKeys_iff.mpr fun _ _ => sound.directory_id

theorem records_carry (sound : t.Sound) : t.records.CarriesKeys Record.id :=
  Keyed.carriesKeys_iff.mpr fun _ _ => sound.record_id

theorem directories_ascend (sound : t.Sound) :
    t.directories.values.Pairwise fun a b => a.id.number < b.id.number :=
  sound.directories_carry.values_ascending.imp Int.compare_eq_lt.mp

theorem records_ascend (sound : t.Sound) : t.records.values.Pairwise fun a b => a.id.number < b.id.number :=
  sound.records_carry.values_ascending.imp Int.compare_eq_lt.mp

private theorem length_le_of_ascending {ids : List Int} {first last : Int} (ascends : ids.Pairwise (· < ·))
    (bounded : ∀ id ∈ ids, first < id ∧ id ≤ last) : (ids.length : Int) ≤ max 0 (last - first) := by
  induction ids generalizing first with
  | nil => exact Int.le_max_left ..
  | cons id rest inductionHypothesis =>
      rcases List.pairwise_cons.mp ascends with ⟨below, restAscends⟩
      have bound := bounded id List.mem_cons_self
      have tail := inductionHypothesis restAscends fun later listed =>
        ⟨below later listed, (bounded later (List.mem_cons_of_mem _ listed)).2⟩
      rw [List.length_cons]
      omega

/-- There are at most as many records as ids were handed out. -/
theorem length_records_le (sound : t.Sound) : (t.records.values.length : Int) ≤ t.lastRecordId := by
  have ascends : (t.records.values.map fun record => record.id.number).Pairwise (· < ·) := by
    rw [List.pairwise_map]
    exact sound.records_ascend
  have bounded : ∀ id ∈ t.records.values.map fun record => record.id.number, 0 < id ∧ id ≤ t.lastRecordId := by
    intro id listed
    rcases List.mem_map.mp listed with ⟨record, member, rfl⟩
    rcases Keyed.mem_values_iff.mp member with ⟨key, stored⟩
    have bound := sound.record_bound stored
    rw [sound.record_id stored]
    omega
  have count := sound.record_count
  have length := length_le_of_ascending ascends bounded
  rw [List.length_map] at length
  omega

end Sound

/-- The fields of an admitted draft read back. -/
theorem IdsFit.listOfJson?_listToJson (fits : t.IdsFit) (sound : t.Sound) {name : String}
    {fields : List FieldDefinition} (shape : WellShaped name fields)
    (complete : t.missingTargets (FieldDefinition.referenceTargets fields) = []) :
    FieldDefinition.listOfJson? (FieldDefinition.listToJson fields) = some fields := by
  refine FieldDefinition.listOfJson?_listToJson fun field listed target selected => ?_
  have pointed : target ∈ FieldDefinition.referenceTargets fields := by
    rw [FieldDefinition.referenceTargets, Keyed.mem_distinct, List.mem_filterMap]
    exact ⟨field, listed, (shape.referenceTarget?_eq listed).trans selected⟩
  rcases Keyed.contains_iff.mp (missingTargets_eq_nil_iff.mp complete target pointed) with ⟨directory, stored⟩
  have bound := sound.directory_bound stored
  have limit := fits.directory
  rw [Numeral.fitsSigned64_iff]
  omega

/-- Accepted values read back. -/
theorem Accepts.ofJson?_toJson {fields : List FieldDefinition} {raw : RawValues} {values : Values}
    (accepted : t.Accepts fields raw values) : Values.ofJson? values.toJson = some values := by
  refine Values.ofJson?_toJson fun name value held => ?_
  rcases Typing.typeField_of_get? accepted.typed held with ⟨_, _, _, typed⟩
  exact (Typing.typeField_normal typed).2.fits

theorem recordCount_eq_count (t : Tables) (id : DirectoryId) :
    t.recordCount id = (t.records.values.map Record.directory).count id := by
  rw [recordCount, List.count, List.countP_map]
  rfl

/-- The tally gives every directory the number of its records. -/
theorem summaries_eq (t : Tables) :
    t.summaries = t.directories.values.map fun directory => directory.summary (t.recordCount directory.id) := by
  unfold summaries
  refine List.map_congr_left fun directory _ => congrArg directory.summary ?_
  rw [Keyed.getD_get?_tally, recordCount_eq_count]

/-! ## Writes of the tables, without case distinctions -/

theorem updateDirectory_eq (t : Tables) (changed : Directory) :
    t.updateDirectory changed = (t.directories.contains changed.id,
      { t with
        directories := (t.directories.get? changed.id).elim t.directories fun stored =>
          t.directories.insert changed.id
            { stored with name := changed.name, fields := changed.fields } }) := by
  unfold updateDirectory Keyed.contains
  cases t.directories.get? changed.id <;> rfl

theorem updateRecord_eq (t : Tables) (id : RecordId) (values : Values) :
    t.updateRecord id values = (t.records.contains id,
      { t with
        records := (t.records.get? id).elim t.records fun stored =>
          t.records.insert id { stored with values := values } }) := by
  unfold updateRecord Keyed.contains
  cases t.records.get? id <;> rfl

theorem deleteRecord_eq (t : Tables) (id : RecordId) :
    t.deleteRecord id = (t.records.contains id, { t with records := t.records.erase id }) := by
  unfold deleteRecord
  cases used : t.records.contains id with
  | true => rfl
  | false => rw [Keyed.erase_of_not_contains used, if_neg Bool.false_ne_true]

end Tables

theorem DirectoryId.number_injective : Function.Injective DirectoryId.number :=
  fun _ _ same => congrArg DirectoryId.mk same

theorem RecordId.number_injective : Function.Injective RecordId.number :=
  fun _ _ same => congrArg RecordId.mk same

end RecordDirectory
