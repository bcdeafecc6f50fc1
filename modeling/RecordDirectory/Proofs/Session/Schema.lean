import RecordDirectory.Proofs.Session.Runs

namespace RecordDirectory

/-!
# Integrity of the schema

Directories refer to one another through the targets of their reference fields.  After any run of guarded
steps each of them is well shaped, its targets are stored in the very same tables, and it is not among
them itself.  Longer cycles are allowed, and the run at the end has one.

The two ways to write a directory arrive at this differently.  A directory that is changed is compared with
its targets.  One that is created has no id yet, but its id will be above the counter, and what is stored
is not.
-/

namespace Tables

/-- A directory as it should be among these tables. -/
structure Intact (t : Tables) (directory : Directory) : Prop where
  shape : WellShaped directory.name directory.fields
  target_stored : ∀ field ∈ directory.fields, ∀ target, field.target = some target →
    t.directories.contains target = true
  target_foreign : ∀ field ∈ directory.fields, field.target ≠ some directory.id

/-- Every stored directory is as it should be. -/
def SchemaIntact (t : Tables) : Prop :=
  ∀ id directory, t.directories.get? id = some directory → t.Intact directory

variable {t : Tables}

theorem intact_of_targets {directory : Directory} (shape : WellShaped directory.name directory.fields)
    (complete : t.missingTargets (FieldDefinition.referenceTargets directory.fields) = [])
    (foreign : directory.id ∉ FieldDefinition.referenceTargets directory.fields) : t.Intact directory := by
  have listed : ∀ field ∈ directory.fields, ∀ target, field.target = some target →
      target ∈ FieldDefinition.referenceTargets directory.fields := by
    intro field member target selected
    refine FieldDefinition.mem_referenceTargets.mpr ⟨field, member, ?_⟩
    rw [shape.referenceTarget?_eq member, selected]
  refine ⟨shape, fun field member target selected => ?_, fun field member selected => ?_⟩
  · exact missingTargets_eq_nil_iff.mp complete target (listed field member target selected)
  · exact foreign (listed field member directory.id selected)

/-- A directory stays intact where no directory is lost. -/
theorem Intact.mono {after : Tables} {directory : Directory} (intact : t.Intact directory)
    (kept : ∀ id, t.directories.contains id = true → after.directories.contains id = true) :
    after.Intact directory where
  shape := intact.shape
  target_stored field member target selected := kept _ (intact.target_stored field member target selected)
  target_foreign := intact.target_foreign

theorem contains_createDirectory (code : DirectoryCode) (draft : DirectoryDraft) {id : DirectoryId}
    (stored : t.directories.contains id = true) :
    (t.createDirectory code draft).2.directories.contains id = true := by
  unfold createDirectory
  split
  · exact stored
  · simp only [Keyed.contains, Keyed.get?_insert] at stored ⊢
    split
    · rfl
    · exact stored

theorem schemaIntact_empty : empty.SchemaIntact :=
  fun _ _ stored => by cases stored

theorem SchemaIntact.createDirectory (intact : t.SchemaIntact) (sound : t.Sound) {code : DirectoryCode}
    {draft : DirectoryDraft} (admitted : t.Admits (.createDirectory code draft)) :
    (t.createDirectory code draft).2.SchemaIntact := by
  intro id directory stored
  refine Intact.mono ?_ fun other => contains_createDirectory code draft
  unfold Tables.createDirectory at stored
  split at stored
  · exact intact _ _ stored
  · simp only [Keyed.get?_insert] at stored
    split at stored
    · cases stored
      rcases admitted with ⟨shape, complete⟩
      refine intact_of_targets shape complete fun selfTarget => ?_
      -- The new id is above the counter, so nothing is stored under it.
      have known := missingTargets_eq_nil_iff.mp complete _ selfTarget
      rcases Keyed.contains_iff.mp known with ⟨other, found⟩
      rw [nextDirectory, sound.fresh_directory] at found
      cases found
    · exact intact _ _ stored

theorem SchemaIntact.updateDirectory (intact : t.SchemaIntact) (sound : t.Sound) {changed : Directory}
    (admitted : t.Admits (.updateDirectory changed)) : (t.updateDirectory changed).2.SchemaIntact := by
  intro id directory stored
  refine Intact.mono ?_ fun other => (Descends.updateDirectory t changed).directory_kept
  unfold Tables.updateDirectory at stored
  split at stored
  · next earlier found =>
    simp only [Keyed.get?_insert] at stored
    split at stored
    · cases stored
      rcases admitted with ⟨shape, complete, foreign⟩
      rw [← sound.directory_id found] at foreign
      exact intact_of_targets shape complete foreign
    · exact intact _ _ stored
  · exact intact _ _ stored

/-- The schema is a matter of directories alone. -/
theorem SchemaIntact.of_directories_eq {after : Tables} (intact : t.SchemaIntact)
    (same : after.directories = t.directories) : after.SchemaIntact := by
  intro id directory stored
  rw [same] at stored
  exact (intact _ _ stored).mono fun other kept => same ▸ kept

/-- An admitted call keeps the schema intact. -/
theorem SchemaIntact.answer (intact : t.SchemaIntact) (sound : t.Sound) {c : StoreCall}
    (admitted : t.Admits c) : (Tables.answer c t).2.SchemaIntact := by
  cases c with
  | createDirectory code draft => exact intact.createDirectory sound admitted
  | updateDirectory directory => exact intact.updateDirectory sound admitted
  | createRecord owner values => exact intact.of_directories_eq (t.createRecord_directories owner values)
  | updateRecord id values => exact intact.of_directories_eq (t.updateRecord_directories id values)
  | deleteRecord id => exact intact.of_directories_eq (t.deleteRecord_directories id)
  | existingDirectories | recordOwners | getDirectory | listDirectories | getRecord | queryRecords =>
      exact intact

end Tables

namespace Session

/-- After a run without bare writes of the store, every directory is well shaped, every target is stored
beside it, and no directory is its own target.  The same holds of what is committed. -/
theorem intact_of_guarded_run {steps : List Step} (guarded : ∀ step ∈ steps, step.isGuarded = true) :
    (start.steps steps).2.Satisfies fun t => ∀ directory ∈ t.directories.values, t.Intact directory := by
  have kept : ∀ t c, t.Sound → t.SchemaIntact → t.Admits c → (Tables.answer c t).2.SchemaIntact :=
    fun t c sound intact admitted => intact.answer sound admitted
  have holds := satisfies_of_admitted Tables.schemaIntact_empty kept guarded
  have each : ∀ t : Tables, t.SchemaIntact → ∀ directory ∈ t.directories.values, t.Intact directory := by
    intro t intact directory listed
    rcases Keyed.mem_values_iff.mp listed with ⟨id, stored⟩
    exact intact id directory stored
  exact ⟨each _ holds.committed.2, each _ holds.working.2⟩

/-- Two directories, each of which ends up with a field that points at the other. -/
def mutualSteps : List Step :=
  [.run (.createDirectory default ⟨"Person", []⟩),
    .run (.createDirectory .ones ⟨" Company ", [⟨"Owner", .reference, some ⟨1⟩⟩]⟩),
    .run (.updateDirectory ⟨1⟩ ⟨"Person", [⟨"Employer ", .reference, some ⟨2⟩⟩]⟩),
    .commit]

theorem intact_of_mutual_run :
    (start.steps mutualSteps).2.committed.directories.values.map Directory.fields =
        [[⟨"Employer", .reference, some ⟨2⟩⟩], [⟨"Owner", .reference, some ⟨1⟩⟩]] ∧
      (start.steps mutualSteps).2.Satisfies fun t => ∀ directory ∈ t.directories.values, t.Intact directory :=
  ⟨by decide +kernel, intact_of_guarded_run (by decide)⟩

end Session
end RecordDirectory
