import RecordDirectory.Proofs.Directory.WellShaped
import RecordDirectory.Proofs.Store.Checks
import RecordDirectory.Proofs.Store.Sound
import RecordDirectory.Session

namespace RecordDirectory

open RecordDirectory.Task

/-!
# The effect of an operation

An operation either leaves the tables as they are or carries out one write, and that write has been
checked against the very tables it changes.  `Tables.Admits` says what the checks have established,
`Operation.Asks` which calls an operation asks at all, `Effect` what can become of the tables, and
`Operation.meets_task` that no operation does anything else, a bare write of the store excepted.

Everything that is later said of runs uses these four and looks into no service again.
-/

namespace Operation

/-- An operation that goes through a service or a validator, or only reads. -/
def isGuarded : Operation → Bool
  | .store call => !call.isWrite
  | _ => true

/-- An operation that goes through a service. -/
def isService : Operation → Bool
  | .store _ | .checkCreation _ | .checkChange _ _ | .checkValues _ _ => false
  | .createDirectory _ _ | .updateDirectory _ _ | .getDirectory _ | .listDirectories | .createRecord _ _
  | .updateRecord _ _ | .getRecord _ | .deleteRecord _ | .listRecords _ _ _ | .listAllRecords _ _ => true

/-- An operation that is meant to change the tables. -/
def isWrite : Operation → Bool
  | .createDirectory _ _ | .updateDirectory _ _ | .createRecord _ _ | .updateRecord _ _
  | .deleteRecord _ => true
  | .store call => call.isWrite
  | .getDirectory _ | .listDirectories | .getRecord _ | .listRecords _ _ _ | .listAllRecords _ _
  | .checkCreation _ | .checkChange _ _ | .checkValues _ _ => false

/-- The code that was drawn for an operation. -/
def code? : Operation → Option DirectoryCode
  | .createDirectory code _ => some code
  | _ => none

end Operation

namespace Tables

/-- Input has these values under the fields, and the tables bear their references out. -/
structure Accepts (t : Tables) (fields : List FieldDefinition) (raw : RawValues) (values : Values) : Prop where
  typed : Typing.typeValues fields raw = .ok values
  faultless : t.referenceFault? fields values = none

/-- What has been established of a call by the time that it is asked.  Only writes need anything. -/
def Admits (t : Tables) : StoreCall → Prop
  | .createDirectory _ draft =>
    WellShaped draft.name draft.fields ∧
      t.missingTargets (FieldDefinition.referenceTargets draft.fields) = []
  | .updateDirectory directory =>
    WellShaped directory.name directory.fields ∧
      t.missingTargets (FieldDefinition.referenceTargets directory.fields) = [] ∧
      directory.id ∉ FieldDefinition.referenceTargets directory.fields
  | .createRecord owner values =>
    ∃ directory raw, t.directories.get? owner = some directory ∧ t.Accepts directory.fields raw values
  | .updateRecord id values =>
    ∃ record directory raw, t.records.get? id = some record ∧
      t.directories.get? record.directory = some directory ∧ t.Accepts directory.fields raw values
  | .deleteRecord _ | .existingDirectories _ | .recordOwners _ | .getDirectory _ | .listDirectories
  | .getRecord _ | .queryRecords _ _ => True

theorem admits_of_not_isWrite (t : Tables) (c : StoreCall) (read : c.isWrite = false) : t.Admits c := by
  cases c <;> first | exact trivial | simp [StoreCall.isWrite] at read

/-- How typing and the check of references together end. -/
def valuesOutcome (t : Tables) (fields : List FieldDefinition) (raw : RawValues) :
    Except (Stop ServiceError) Values :=
  match Typing.typeValues fields raw with
  | .error stop => .error (stop.map .validation)
  | .ok values => (t.referencesOutcome fields values).map fun _ => values

theorem valuesOutcome_eq_ok_iff {t : Tables} {fields : List FieldDefinition} {raw : RawValues}
    {values : Values} : t.valuesOutcome fields raw = .ok values ↔ t.Accepts fields raw values := by
  unfold valuesOutcome referencesOutcome
  constructor
  · intro passed
    split at passed
    · cases passed
    · next typedValues typed =>
      split at passed
      · next faultless =>
        cases passed
        exact ⟨typed, faultless⟩
      · cases passed
  · rintro ⟨typed, faultless⟩
    simp only [typed, faultless]
    rfl

end Tables

/-- The calls of an operation that has started on these tables.  They still are the same at every call, so
nothing is asked behind a write. -/
structure Operation.Asks (operation : Operation) (t now : Tables) (c : StoreCall) : Prop where
  unchanged : now = t
  admitted : t.Admits c
  code : ∀ code draft, c = .createDirectory code draft → operation.code? = some code

theorem Operation.asks_of_not_isWrite (operation : Operation) (t : Tables) (c : StoreCall)
    (read : c.isWrite = false) : operation.Asks t t c where
  unchanged := rfl
  admitted := t.admits_of_not_isWrite c read
  code code draft same := by
    rw [same] at read
    cases read

/-- What can become of the tables when an operation that is guarded ends with an outcome. -/
inductive Effect (t : Tables) : Operation → Outcome → Tables → Prop
  /-- The operation only reads, or it has failed. -/
  | kept {operation : Operation} {outcome : Outcome}
      (idle : operation.isWrite = true → ∃ stop, outcome = .error stop) :
      Effect t operation outcome t
  | directoryCreated {code : DirectoryCode} {draft checked : DirectoryDraft}
      (passed : draft.checkShape = .ok checked) (untaken : t.codeTaken code = false)
      (admitted : t.Admits (.createDirectory code checked)) :
      Effect t (.createDirectory code draft) (.ok (.directory (t.nextDirectory code checked)))
        (t.createDirectory code checked).2
  | directoryUpdated {id : DirectoryId} {draft checked : DirectoryDraft} {directory : Directory}
      (passed : draft.checkShape = .ok checked) (found : t.directories.get? id = some directory)
      (admitted : t.Admits
        (.updateDirectory { directory with name := checked.name, fields := checked.fields })) :
      Effect t (.updateDirectory id draft)
        (.ok (.directory { directory with name := checked.name, fields := checked.fields }))
        (t.updateDirectory { directory with name := checked.name, fields := checked.fields }).2
  | recordCreated {owner : DirectoryId} {raw : RawValues} {directory : Directory} {values : Values}
      (found : t.directories.get? owner = some directory)
      (accepted : t.Accepts directory.fields raw values) :
      Effect t (.createRecord owner raw) (.ok (.record (t.nextRecord owner values)))
        (t.createRecord owner values).2
  | recordUpdated {id : RecordId} {raw : RawValues} {record : Record} {directory : Directory}
      {values : Values} (found : t.records.get? id = some record)
      (owned : t.directories.get? record.directory = some directory)
      (accepted : t.Accepts directory.fields raw values) :
      Effect t (.updateRecord id raw) (.ok (.record { record with values := values }))
        (t.updateRecord id values).2
  | recordDeleted {id : RecordId} {record : Record} (found : t.records.get? id = some record) :
      Effect t (.deleteRecord id) (.ok .nothing) (t.deleteRecord id).2

namespace Effect

variable {t after : Tables} {operation : Operation} {outcome : Outcome}

theorem failed (stop : Stop ServiceError) : Effect t operation (.error stop) t :=
  .kept fun _ => ⟨stop, rfl⟩

theorem read (reads : operation.isWrite = false) : Effect t operation outcome t :=
  .kept fun writes => absurd (reads.symm.trans writes) Bool.false_ne_true

/-- What every admitted call keeps, every effect keeps. -/
theorem preserves (invariant : Tables → Prop)
    (kept : ∀ c, t.Admits c → invariant (Tables.answer c t).2) (holds : invariant t)
    (effect : Effect t operation outcome after) : invariant after := by
  cases effect with
  | kept => exact holds
  | directoryCreated _ _ admitted => exact kept (.createDirectory _ _) admitted
  | directoryUpdated _ _ admitted => exact kept (.updateDirectory _) admitted
  | recordCreated found accepted => exact kept (.createRecord _ _) ⟨_, _, found, accepted⟩
  | recordUpdated found owned accepted => exact kept (.updateRecord _ _) ⟨_, _, _, found, owned, accepted⟩
  | recordDeleted => exact kept (.deleteRecord _) trivial

end Effect

/-! ## What the services do -/

namespace Service

variable {t : Tables} {admitted : Tables → StoreCall → Prop}

/-- A look-up of a directory goes on with the stored one or fails. -/
theorem meets_getDirectory (ends : Except (Stop ServiceError) Directory → Tables → Prop)
    (reads : ∀ c, c.isWrite = false → admitted t c) (id : DirectoryId) :
    Meets admitted ends (getDirectory id) t ↔
      ends (match t.directories.get? id with
        | some directory => .ok directory
        | none => .error (.because (.directoryNotFound id))) t := by
  unfold getDirectory
  rw [meets_bind]
  refine (meets_call_ok (c := .getDirectory id) rfl _).trans ((and_iff_right (reads _ rfl)).trans ?_)
  rw [continues_ok]
  cases t.directories.get? id with
  | none => exact meets_fail _ ends t
  | some directory => exact meets_pure directory ends t

/-- A look-up of a record goes on with the stored one or fails. -/
theorem meets_getRecord (ends : Except (Stop ServiceError) Record → Tables → Prop)
    (reads : ∀ c, c.isWrite = false → admitted t c) (id : RecordId) :
    Meets admitted ends (getRecord id) t ↔
      ends (match t.records.get? id with
        | some record => .ok record
        | none => .error (.because (.recordNotFound id))) t := by
  unfold getRecord
  rw [meets_bind]
  refine (meets_call_ok (c := .getRecord id) rfl _).trans ((and_iff_right (reads _ rfl)).trans ?_)
  rw [continues_ok]
  cases t.records.get? id with
  | none => exact meets_fail _ ends t
  | some record => exact meets_pure record ends t

theorem meets_checkedValues (ends : Except (Stop ServiceError) Values → Tables → Prop)
    (reads : ∀ c, c.isWrite = false → admitted t c) (directory : Directory) (raw : RawValues) :
    Meets admitted ends (checkedValues directory raw) t ↔
      ends (t.valuesOutcome directory.fields raw) t := by
  unfold checkedValues Tables.valuesOutcome
  rw [meets_bind, meets_settled]
  cases Typing.typeValues directory.fields raw with
  | error stop => exact continues_error ends _ _ t
  | ok values =>
      rw [Except.mapError, continues_ok, meets_bind, References.meets_checkValues _ reads]
      dsimp only
      cases t.referencesOutcome directory.fields values with
      | error stop => exact continues_error ends _ stop t
      | ok passed => exact meets_pure values ends t

/-- A new directory has been checked against the tables that it is put into. -/
theorem meets_createDirectory (t : Tables) (code : DirectoryCode) (draft : DirectoryDraft) :
    Meets (Operation.Asks (.createDirectory code draft) t)
      (fun result => Effect t (.createDirectory code draft) (result.map Answer.directory))
      (createDirectory code draft) t := by
  have reads := Operation.asks_of_not_isWrite (.createDirectory code draft) t
  unfold createDirectory
  rw [meets_bind, meets_validated]
  cases passed : draft.checkShape with
  | error fault => exact Effect.failed _
  | ok checked =>
      rw [Except.mapError, continues_ok, meets_bind, References.meets_checkCreation _ reads]
      cases complete : t.targetsOutcome (FieldDefinition.referenceTargets checked.fields) with
      | error stop => exact Effect.failed _
      | ok _ =>
          have admitted : t.Admits (.createDirectory code checked) :=
            ⟨DirectoryDraft.wellShaped_of_checkShape passed, Tables.targetsOutcome_eq_ok_iff.mp complete⟩
          have asked : Operation.Asks (.createDirectory code draft) t t (.createDirectory code checked) :=
            ⟨rfl, admitted, fun _ _ same => by cases same; rfl⟩
          cases untaken : t.codeTaken code with
          | true =>
              have refused : Tables.answer (.createDirectory code checked) t = (.error .alreadyExists, t) := by
                simp only [Tables.answer, Tables.createDirectory, untaken, if_true]
              exact (meets_call_error refused _).mpr ⟨asked, Effect.failed _⟩
          | false =>
              have stored : Tables.answer (.createDirectory code checked) t =
                  (.ok (t.nextDirectory code checked), (t.createDirectory code checked).2) := by
                simp only [Tables.answer, Tables.createDirectory, untaken, Bool.false_eq_true, if_false]
              exact (meets_call_ok stored _).mpr
                ⟨asked, Effect.directoryCreated passed untaken admitted⟩

/-- A changed directory has been checked against the tables that it is put back into. -/
theorem meets_updateDirectory {t : Tables} (sound : t.Sound) (id : DirectoryId) (draft : DirectoryDraft) :
    Meets (Operation.Asks (.updateDirectory id draft) t)
      (fun result => Effect t (.updateDirectory id draft) (result.map Answer.directory))
      (updateDirectory id draft) t := by
  have reads := Operation.asks_of_not_isWrite (.updateDirectory id draft) t
  unfold updateDirectory
  rw [meets_bind, meets_getDirectory _ reads]
  cases found : t.directories.get? id with
  | none => exact Effect.failed _
  | some directory =>
      have named : directory.id = id := sound.directory_id found
      dsimp only
      rw [continues_ok, meets_bind, meets_validated]
      cases passed : draft.checkShape with
      | error fault => exact Effect.failed _
      | ok checked =>
          rw [Except.mapError, continues_ok, meets_bind, References.meets_checkChange _ reads]
          cases complete : t.changeOutcome id (FieldDefinition.referenceTargets checked.fields) with
          | error stop => exact Effect.failed _
          | ok _ =>
              rcases Tables.changeOutcome_eq_ok_iff.mp complete with ⟨known, foreign⟩
              let changed : Directory := { directory with name := checked.name, fields := checked.fields }
              have admitted : t.Admits (.updateDirectory changed) :=
                ⟨DirectoryDraft.wellShaped_of_checkShape passed, known, named ▸ foreign⟩
              have stored : Tables.answer (.updateDirectory changed) t =
                  (.ok true, (t.updateDirectory changed).2) := by
                simp only [Tables.answer, Tables.updateDirectory, changed, named, found]
              rw [continues_ok, meets_bind]
              have asked : Operation.Asks (.updateDirectory id draft) t t (.updateDirectory changed) :=
                ⟨rfl, admitted, fun _ _ same => by cases same⟩
              refine (meets_call_ok stored _).mpr ⟨asked, (meets_pure changed _ _).mpr ?_⟩
              exact Effect.directoryUpdated passed found admitted

/-- A new record has been typed and checked against the tables that it is put into. -/
theorem meets_createRecord {t : Tables} (sound : t.Sound) (owner : DirectoryId) (raw : RawValues) :
    Meets (Operation.Asks (.createRecord owner raw) t)
      (fun result => Effect t (.createRecord owner raw) (result.map Answer.record))
      (createRecord owner raw) t := by
  have reads := Operation.asks_of_not_isWrite (.createRecord owner raw) t
  unfold createRecord
  rw [meets_bind, meets_getDirectory _ reads]
  cases found : t.directories.get? owner with
  | none => exact Effect.failed _
  | some directory =>
      have named : directory.id = owner := sound.directory_id found
      dsimp only
      rw [continues_ok, meets_bind, meets_checkedValues _ reads]
      cases checked : t.valuesOutcome directory.fields raw with
      | error stop => exact Effect.failed _
      | ok values =>
          have accepted := Tables.valuesOutcome_eq_ok_iff.mp checked
          have present : t.directories.contains owner = true := Keyed.contains_iff.mpr ⟨_, found⟩
          have stored : Tables.answer (.createRecord owner values) t =
              (.ok (t.nextRecord owner values), (t.createRecord owner values).2) := by
            simp only [Tables.answer, Tables.createRecord, present, if_true]
          rw [← named] at stored ⊢
          refine (meets_call_ok stored _).mpr ⟨⟨rfl, ?_, fun _ _ same => by cases same⟩, ?_⟩
          · exact ⟨_, _, named ▸ found, accepted⟩
          · exact Effect.recordCreated (named ▸ found) accepted

/-- A changed record has been typed and checked against the tables that it is put back into. -/
theorem meets_updateRecord (t : Tables) (id : RecordId) (raw : RawValues) :
    Meets (Operation.Asks (.updateRecord id raw) t)
      (fun result => Effect t (.updateRecord id raw) (result.map Answer.record))
      (updateRecord id raw) t := by
  have reads := Operation.asks_of_not_isWrite (.updateRecord id raw) t
  unfold updateRecord
  rw [meets_bind, meets_getRecord _ reads]
  cases found : t.records.get? id with
  | none => exact Effect.failed _
  | some record =>
      dsimp only
      rw [continues_ok, meets_bind, meets_getDirectory _ reads]
      cases owned : t.directories.get? record.directory with
      | none => exact Effect.failed _
      | some directory =>
          dsimp only
          rw [continues_ok, meets_bind, meets_checkedValues _ reads]
          cases checked : t.valuesOutcome directory.fields raw with
          | error stop => exact Effect.failed _
          | ok values =>
              have accepted := Tables.valuesOutcome_eq_ok_iff.mp checked
              have stored : Tables.answer (.updateRecord id values) t =
                  (.ok true, (t.updateRecord id values).2) := by
                simp only [Tables.answer, Tables.updateRecord, found]
              rw [continues_ok, meets_bind]
              let changed : Record := { record with values := values }
              have asked : Operation.Asks (.updateRecord id raw) t t (.updateRecord id values) :=
                ⟨rfl, ⟨_, _, _, found, owned, accepted⟩, fun _ _ same => by cases same⟩
              refine (meets_call_ok stored _).mpr ⟨asked, (meets_pure changed _ _).mpr ?_⟩
              exact Effect.recordUpdated found owned accepted

theorem meets_deleteRecord (t : Tables) (id : RecordId) :
    Meets (Operation.Asks (.deleteRecord id) t)
      (fun result => Effect t (.deleteRecord id) (result.map fun _ => Answer.nothing))
      (deleteRecord id) t := by
  have asked : Operation.Asks (.deleteRecord id) t t (.deleteRecord id) :=
    ⟨rfl, trivial, fun _ _ same => by cases same⟩
  unfold deleteRecord
  rw [meets_bind]
  cases found : t.records.get? id with
  | none =>
      have absent : Tables.answer (.deleteRecord id) t = (.ok false, t) := by
        simp [Tables.answer, Tables.deleteRecord, Keyed.contains, found]
      exact (meets_call_ok absent _).mpr ⟨asked, (meets_fail _ _ _).mpr (Effect.failed _)⟩
  | some record =>
      have removed : Tables.answer (.deleteRecord id) t = (.ok true, (t.deleteRecord id).2) := by
        simp [Tables.answer, Tables.deleteRecord, Keyed.contains, found]
      exact (meets_call_ok removed _).mpr ⟨asked, (meets_pure () _ _).mpr (Effect.recordDeleted found)⟩

end Service

/-! ## What any guarded operation does -/

namespace References

theorem reads_checkTargets (targets : List DirectoryId) : (checkTargets targets).Reads := by
  unfold checkTargets
  split
  · trivial
  · refine reads_bind (reads_call rfl) fun existing => ?_
    dsimp only
    split <;> trivial

theorem reads_checkChange (directory : DirectoryId) (fields : List FieldDefinition) :
    (checkChange directory fields).Reads := by
  refine reads_bind (reads_checkTargets _) fun _ => ?_
  split <;> trivial

theorem reads_checkValues (fields : List FieldDefinition) (values : Values) :
    (checkValues fields values).Reads := by
  refine reads_bind (reads_validated _) fun references => ?_
  split
  · trivial
  · refine reads_bind (reads_call rfl) fun owners => ?_
    split <;> trivial

end References

namespace Service

theorem reads_getDirectory (id : DirectoryId) : (getDirectory id).Reads :=
  reads_bind (reads_call rfl) fun _ => reads_found _ _

theorem reads_getRecord (id : RecordId) : (getRecord id).Reads :=
  reads_bind (reads_call rfl) fun _ => reads_found _ _

theorem reads_listRecords (owner : DirectoryId) (search : Option String) (page : PageRequest) :
    (listRecords owner search page).Reads :=
  reads_bind (reads_getDirectory owner) fun _ => reads_call rfl

theorem reads_listAllRecords (owner : DirectoryId) (search : Option String) :
    (listAllRecords owner search).Reads :=
  reads_bind (reads_getDirectory owner) fun _ => reads_map _ (reads_call rfl)

end Service

namespace Operation

/-- The operations that are no writes ask none. -/
theorem reads_task {operation : Operation} (reads : operation.isWrite = false) : operation.task.Reads := by
  cases operation with
  | createDirectory | updateDirectory | createRecord | updateRecord | deleteRecord => cases reads
  | getDirectory id => exact reads_map _ (Service.reads_getDirectory id)
  | listDirectories => exact reads_map _ (reads_call rfl)
  | getRecord id => exact reads_map _ (Service.reads_getRecord id)
  | listRecords owner search page => exact reads_map _ (Service.reads_listRecords owner search page)
  | listAllRecords owner search => exact reads_map _ (Service.reads_listAllRecords owner search)
  | checkCreation fields => exact reads_map _ (References.reads_checkTargets _)
  | checkChange directory fields => exact reads_map _ (References.reads_checkChange directory fields)
  | checkValues fields values => exact reads_map _ (References.reads_checkValues fields values)
  | store call => exact reads_map _ (reads_call reads)

/-- A guarded operation asks only such calls and has one of the listed effects. -/
theorem meets_task {t : Tables} (sound : t.Sound) {operation : Operation}
    (guarded : operation.isGuarded = true) :
    Meets (operation.Asks t) (Effect t operation) operation.task t := by
  cases reads : operation.isWrite with
  | false => exact meets_of_reads (reads_task reads) (operation.asks_of_not_isWrite t) fun _ => .read reads
  | true =>
      cases operation with
      | createDirectory code draft =>
          rw [task, meets_map]
          exact Service.meets_createDirectory t code draft
      | updateDirectory id draft =>
          rw [task, meets_map]
          exact Service.meets_updateDirectory sound id draft
      | createRecord owner raw =>
          rw [task, meets_map]
          exact Service.meets_createRecord sound owner raw
      | updateRecord id raw =>
          rw [task, meets_map]
          exact Service.meets_updateRecord t id raw
      | deleteRecord id =>
          rw [task, meets_map]
          exact Service.meets_deleteRecord t id
      | store call =>
          simp only [isGuarded, isWrite] at guarded reads
          simp [reads] at guarded
      | getDirectory | listDirectories | getRecord | listRecords | listAllRecords | checkCreation
      | checkChange | checkValues => cases reads

/-- The effect of a guarded operation that is run on sound tables. -/
theorem effect_run {t : Tables} (sound : t.Sound) {operation : Operation}
    (guarded : operation.isGuarded = true) :
    Effect t operation (operation.task.run Tables.answer t).1 (operation.task.run Tables.answer t).2 :=
  (meets_task sound guarded).run

end Operation
end RecordDirectory
