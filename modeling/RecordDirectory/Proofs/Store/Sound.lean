import RecordDirectory.Proofs.Keyed
import RecordDirectory.Store.Tables

namespace RecordDirectory
namespace Tables

/-!
# Soundness of the tables

What the tables keep whatever is asked of them, checked or not: an entry carries the id that it is stored
under, an id was handed out before it was used, no two directories have one code, and no record is without
its directory.

Later arguments about whole runs rest on two consequences.  An id above the counter is stored nowhere, so
what is created next is new (`Sound.fresh_directory`).  And directories are never removed, so what a record
is owned by stays there.
-/

/-- The tables represent directories and records. -/
structure Sound (t : Tables) : Prop where
  directory_id : ∀ {id directory}, t.directories.get? id = some directory → directory.id = id
  directory_bound : ∀ {id directory}, t.directories.get? id = some directory →
    1 ≤ id.number ∧ id.number ≤ t.lastDirectoryId
  directory_count : 0 ≤ t.lastDirectoryId
  code_unique : ∀ {first second directory other}, t.directories.get? first = some directory →
    t.directories.get? second = some other → directory.code = other.code → first = second
  record_id : ∀ {id record}, t.records.get? id = some record → record.id = id
  record_bound : ∀ {id record}, t.records.get? id = some record →
    1 ≤ id.number ∧ id.number ≤ t.lastRecordId
  record_count : 0 ≤ t.lastRecordId
  owner_stored : ∀ {id record}, t.records.get? id = some record →
    t.directories.contains record.directory = true

theorem codeTaken_iff {t : Tables} {code : DirectoryCode} :
    t.codeTaken code = true ↔
      ∃ id directory, t.directories.get? id = some directory ∧ directory.code = code := by
  simp only [codeTaken, List.any_eq_true, beq_iff_eq, Keyed.mem_values_iff]
  constructor
  · rintro ⟨directory, ⟨id, stored⟩, same⟩
    exact ⟨id, directory, stored, same⟩
  · rintro ⟨id, directory, stored, same⟩
    exact ⟨directory, ⟨id, stored⟩, same⟩

/-! ## Each write changes one table -/

@[simp]
theorem createRecord_directories (t : Tables) (owner : DirectoryId) (values : Values) :
    (t.createRecord owner values).2.directories = t.directories := by
  unfold createRecord
  split <;> rfl

@[simp]
theorem updateRecord_directories (t : Tables) (id : RecordId) (values : Values) :
    (t.updateRecord id values).2.directories = t.directories := by
  unfold updateRecord
  split <;> rfl

@[simp]
theorem deleteRecord_directories (t : Tables) (id : RecordId) :
    (t.deleteRecord id).2.directories = t.directories := by
  unfold deleteRecord
  split <;> rfl

@[simp]
theorem createDirectory_records (t : Tables) (code : DirectoryCode) (draft : DirectoryDraft) :
    (t.createDirectory code draft).2.records = t.records := by
  unfold createDirectory
  split <;> rfl

@[simp]
theorem updateDirectory_records (t : Tables) (directory : Directory) :
    (t.updateDirectory directory).2.records = t.records := by
  unfold updateDirectory
  split <;> rfl

/-! ## Soundness is kept by every call -/

theorem sound_empty : empty.Sound where
  directory_id stored := by cases stored
  directory_bound stored := by cases stored
  directory_count := Int.le_refl 0
  code_unique stored := by cases stored
  record_id stored := by cases stored
  record_bound stored := by cases stored
  record_count := Int.le_refl 0
  owner_stored stored := by cases stored

namespace Sound

variable {t : Tables}

/-- A stored directory is stored under its own id. -/
theorem get?_of_mem_directories (sound : t.Sound) {directory : Directory}
    (listed : directory ∈ t.directories.values) : t.directories.get? directory.id = some directory := by
  rcases Keyed.mem_values_iff.mp listed with ⟨key, stored⟩
  rwa [sound.directory_id stored]

/-- A stored record is stored under its own id. -/
theorem get?_of_mem_records (sound : t.Sound) {record : Record} (listed : record ∈ t.records.values) :
    t.records.get? record.id = some record := by
  rcases Keyed.mem_values_iff.mp listed with ⟨key, stored⟩
  rwa [sound.record_id stored]

/-- The id of the next directory is not in use. -/
theorem fresh_directory (sound : t.Sound) : t.directories.get? ⟨t.lastDirectoryId + 1⟩ = none := by
  cases stored : t.directories.get? ⟨t.lastDirectoryId + 1⟩ with
  | none => rfl
  | some directory =>
      have bound := (sound.directory_bound stored).2
      simp only at bound
      omega

theorem createDirectory (sound : t.Sound) (code : DirectoryCode) (draft : DirectoryDraft) :
    (t.createDirectory code draft).2.Sound := by
  unfold Tables.createDirectory
  split
  · exact sound
  · next untaken =>
    have different : ∀ {id directory}, t.directories.get? id = some directory → directory.code ≠ code :=
      fun stored same => untaken (codeTaken_iff.mpr ⟨_, _, stored, same⟩)
    refine { sound with
      directory_id := ?_, directory_bound := ?_, directory_count := ?_, code_unique := ?_, owner_stored := ?_ }
    · intro id directory stored
      simp only [Keyed.get?_insert] at stored
      split at stored
      · next same =>
        cases stored
        exact same.symm
      · exact sound.directory_id stored
    · intro id directory stored
      simp only [Keyed.get?_insert] at stored
      have count := sound.directory_count
      split at stored
      · next same =>
        subst same
        simp only [nextDirectory]
        omega
      · have bound := sound.directory_bound stored
        simp only
        omega
    · have count := sound.directory_count
      simp only
      omega
    · intro first second directory other firstStored secondStored same
      simp only [Keyed.get?_insert] at firstStored secondStored
      split at firstStored <;> split at secondStored
      · next isNext alsoNext => rw [isNext, alsoNext]
      · cases firstStored
        exact absurd same.symm (different secondStored)
      · cases secondStored
        exact absurd same (different firstStored)
      · exact sound.code_unique firstStored secondStored same
    · intro id record stored
      have owned := sound.owner_stored stored
      simp only [Keyed.contains, Keyed.get?_insert] at owned ⊢
      split
      · rfl
      · exact owned

theorem createRecord (sound : t.Sound) (directory : DirectoryId) (values : Values) :
    (t.createRecord directory values).2.Sound := by
  unfold Tables.createRecord
  split
  · next owned =>
    refine { sound with record_id := ?_, record_bound := ?_, record_count := ?_, owner_stored := ?_ }
    · intro id record stored
      simp only [Keyed.get?_insert] at stored
      split at stored
      · next same =>
        cases stored
        exact same.symm
      · exact sound.record_id stored
    · intro id record stored
      simp only [Keyed.get?_insert] at stored
      have count := sound.record_count
      split at stored
      · next same =>
        subst same
        simp only [nextRecord]
        omega
      · have bound := sound.record_bound stored
        simp only
        omega
    · have count := sound.record_count
      simp only
      omega
    · intro id record stored
      simp only [Keyed.get?_insert] at stored
      split at stored
      · cases stored
        exact owned
      · exact sound.owner_stored stored
  · exact sound

end Sound

/-- The tables hold no entry that the earlier ones do not hold, and what they hold has kept its identity:
its id, and the code of a directory or the owner of a record.  No directory is gone. -/
structure Descends (t after : Tables) : Prop where
  directory : ∀ {id later}, after.directories.get? id = some later →
    ∃ earlier, t.directories.get? id = some earlier ∧ earlier.id = later.id ∧ earlier.code = later.code
  directory_kept : ∀ {id}, t.directories.contains id = true → after.directories.contains id = true
  record : ∀ {id later}, after.records.get? id = some later →
    ∃ earlier, t.records.get? id = some earlier ∧ earlier.id = later.id ∧ earlier.directory = later.directory
  directory_count : after.lastDirectoryId = t.lastDirectoryId
  record_count : after.lastRecordId = t.lastRecordId

namespace Descends

theorem refl (t : Tables) : Descends t t where
  directory stored := ⟨_, stored, rfl, rfl⟩
  directory_kept := id
  record stored := ⟨_, stored, rfl, rfl⟩
  directory_count := rfl
  record_count := rfl

theorem updateDirectory (t : Tables) (directory : Directory) : Descends t (t.updateDirectory directory).2 := by
  unfold Tables.updateDirectory
  split
  · next stored found =>
    refine { refl t with directory := ?_, directory_kept := ?_ }
    · intro id later selected
      simp only [Keyed.get?_insert] at selected
      split at selected
      · next same =>
        cases selected
        exact ⟨stored, same ▸ found, rfl, rfl⟩
      · exact ⟨later, selected, rfl, rfl⟩
    · intro id contained
      simp only [Keyed.contains, Keyed.get?_insert] at contained ⊢
      split
      · rfl
      · exact contained
  · exact refl t

theorem updateRecord (t : Tables) (id : RecordId) (values : Values) :
    Descends t (t.updateRecord id values).2 := by
  unfold Tables.updateRecord
  split
  · next stored found =>
    refine { refl t with record := ?_ }
    intro other later selected
    simp only [Keyed.get?_insert] at selected
    split at selected
    · next same =>
      cases selected
      exact ⟨stored, same ▸ found, rfl, rfl⟩
    · exact ⟨later, selected, rfl, rfl⟩
  · exact refl t

theorem deleteRecord (t : Tables) (id : RecordId) : Descends t (t.deleteRecord id).2 := by
  unfold Tables.deleteRecord
  split
  · refine { refl t with record := ?_ }
    intro other later selected
    simp only [Keyed.get?_erase] at selected
    split at selected
    · cases selected
    · exact ⟨later, selected, rfl, rfl⟩
  · exact refl t

end Descends

namespace Sound

variable {t : Tables}

theorem descends {after : Tables} (sound : t.Sound) (kept : Descends t after) : after.Sound where
  directory_id stored := by
    rcases kept.directory stored with ⟨_, before, sameId, _⟩
    exact sameId.symm.trans (sound.directory_id before)
  directory_bound stored := by
    rcases kept.directory stored with ⟨_, before, _, _⟩
    rw [kept.directory_count]
    exact sound.directory_bound before
  directory_count := kept.directory_count ▸ sound.directory_count
  code_unique firstStored secondStored same := by
    rcases kept.directory firstStored with ⟨_, firstBefore, _, firstCode⟩
    rcases kept.directory secondStored with ⟨_, secondBefore, _, secondCode⟩
    exact sound.code_unique firstBefore secondBefore (firstCode.trans (same.trans secondCode.symm))
  record_id stored := by
    rcases kept.record stored with ⟨_, before, sameId, _⟩
    exact sameId.symm.trans (sound.record_id before)
  record_bound stored := by
    rcases kept.record stored with ⟨_, before, _, _⟩
    rw [kept.record_count]
    exact sound.record_bound before
  record_count := kept.record_count ▸ sound.record_count
  owner_stored stored := by
    rcases kept.record stored with ⟨_, before, _, sameOwner⟩
    exact kept.directory_kept (sameOwner ▸ sound.owner_stored before)

/-- No call, checked or not, makes the tables unsound. -/
theorem answer (sound : t.Sound) (c : StoreCall) : (Tables.answer c t).2.Sound := by
  cases c with
  | createDirectory code draft => exact sound.createDirectory code draft
  | updateDirectory directory => exact sound.descends (.updateDirectory t directory)
  | createRecord directory values => exact sound.createRecord directory values
  | updateRecord id values => exact sound.descends (.updateRecord t id values)
  | deleteRecord id => exact sound.descends (.deleteRecord t id)
  | existingDirectories | recordOwners | getDirectory | listDirectories | getRecord | queryRecords =>
      exact sound

end Sound

/-! ## Ids are never lost -/

/-- The later tables have not lost an id that was handed out. -/
structure Counts (t after : Tables) : Prop where
  directory : t.lastDirectoryId ≤ after.lastDirectoryId
  record : t.lastRecordId ≤ after.lastRecordId

namespace Counts

variable {t after later : Tables}

theorem refl (t : Tables) : Counts t t :=
  ⟨Int.le_refl _, Int.le_refl _⟩

theorem trans (first : Counts t after) (second : Counts after later) : Counts t later :=
  ⟨Int.le_trans first.directory second.directory, Int.le_trans first.record second.record⟩

theorem of_descends (kept : Descends t after) : Counts t after :=
  ⟨Int.le_of_eq kept.directory_count.symm, Int.le_of_eq kept.record_count.symm⟩

theorem answer (t : Tables) (c : StoreCall) : Counts t (Tables.answer c t).2 := by
  cases c with
  | createDirectory code draft =>
      change Counts t (t.createDirectory code draft).2
      unfold Tables.createDirectory
      split
      · exact .refl t
      · exact ⟨Int.le_add_one (Int.le_refl _), Int.le_refl _⟩
  | createRecord owner values =>
      change Counts t (t.createRecord owner values).2
      unfold Tables.createRecord
      split
      · exact ⟨Int.le_refl _, Int.le_add_one (Int.le_refl _)⟩
      · exact .refl t
  | updateDirectory directory => exact .of_descends (.updateDirectory t directory)
  | updateRecord id values => exact .of_descends (.updateRecord t id values)
  | deleteRecord id => exact .of_descends (.deleteRecord t id)
  | existingDirectories | recordOwners | getDirectory | listDirectories | getRecord | queryRecords =>
      exact .refl t

end Counts
end Tables
end RecordDirectory
