import RecordDirectory.Proofs.Session.Schema
import RecordDirectory.Proofs.Store.Ordinary

namespace RecordDirectory

open RecordDirectory.Task

/-!
# What a service refuses

A service that is asked through the services alone fails only for what its caller sent.  The other errors
that it could end with are about a stored definition that is broken or about the storage itself.  Each of
them is ruled out by what all earlier operations have kept: fields that a record is typed under are well
shaped, a record has its directory, and an entry that was found a moment ago is still there when it is
changed.

Of the entries that an operation names, a missing one is reported under its own id, and nothing else is
ever reported as missing (`Settles`).  In particular a change of a record does not report a directory.

A code that is drawn twice is left out.  It is the one fault of the storage that checks do not prevent.
-/

namespace Operation

/-- The directory that has to be there for an operation. -/
def directory? : Operation → Option DirectoryId
  | .updateDirectory id _ | .getDirectory id | .createRecord id _ | .listRecords id _ _
  | .listAllRecords id _ => some id
  | _ => none

/-- The record that has to be there for an operation. -/
def record? : Operation → Option RecordId
  | .updateRecord id _ | .getRecord id | .deleteRecord id => some id
  | _ => none

/-- No operation names both. -/
theorem record?_of_directory? {operation : Operation} {id : DirectoryId}
    (named : operation.directory? = some id) : operation.record? = none := by
  cases operation <;> first | rfl | cases named

end Operation

/-- How a service may end on tables.  What it names and does not find is what it reports, and otherwise its
outcome is ordinary. -/
inductive Settles (t : Tables) (operation : Operation) : Outcome → Prop
  | unknownDirectory {id : DirectoryId} (named : operation.directory? = some id)
      (absent : t.directories.get? id = none) :
      Settles t operation (.error (.because (.directoryNotFound id)))
  | unknownRecord {id : RecordId} (named : operation.record? = some id)
      (absent : t.records.get? id = none) :
      Settles t operation (.error (.because (.recordNotFound id)))
  | known {outcome : Outcome}
      (directory : ∀ id, operation.directory? = some id → t.directories.contains id = true)
      (record : ∀ id, operation.record? = some id → t.records.contains id = true)
      (ordinary : Ordinary outcome) : Settles t operation outcome

namespace Settles

variable {t : Tables} {operation : Operation} {outcome : Outcome}

theorem of_unnamed (undirected : operation.directory? = none) (unrecorded : operation.record? = none)
    (ordinary : Ordinary outcome) : Settles t operation outcome :=
  .known (fun id named => by rw [undirected] at named; cases named)
    (fun id named => by rw [unrecorded] at named; cases named) ordinary

theorem of_directory {id : DirectoryId} {directory : Directory} (named : operation.directory? = some id)
    (unrecorded : operation.record? = none) (found : t.directories.get? id = some directory)
    (ordinary : Ordinary outcome) : Settles t operation outcome := by
  refine .known (fun other alsoNamed => ?_) (fun _ recorded => by rw [unrecorded] at recorded; cases recorded)
    ordinary
  rw [named] at alsoNamed
  cases alsoNamed
  exact Keyed.contains_iff.mpr ⟨_, found⟩

theorem of_record {id : RecordId} {record : Record} (named : operation.record? = some id)
    (undirected : operation.directory? = none) (found : t.records.get? id = some record)
    (ordinary : Ordinary outcome) : Settles t operation outcome := by
  refine .known (fun _ directed => by rw [undirected] at directed; cases directed) (fun other alsoNamed => ?_)
    ordinary
  rw [named] at alsoNamed
  cases alsoNamed
  exact Keyed.contains_iff.mpr ⟨_, found⟩

end Settles

theorem Tables.Sound.directories_get?_eq_none_iff {t : Tables} (sound : t.Sound) {id : DirectoryId} :
    t.directories.get? id = none ↔ ∀ directory ∈ t.directories.values, directory.id ≠ id := by
  constructor
  · rintro absent directory listed rfl
    rw [sound.get?_of_mem_directories listed] at absent
    cases absent
  · intro unused
    cases found : t.directories.get? id with
    | none => rfl
    | some directory =>
        exact absurd (sound.directory_id found) (unused directory (Keyed.mem_values_iff.mpr ⟨id, found⟩))

theorem Tables.Sound.records_get?_eq_none_iff {t : Tables} (sound : t.Sound) {id : RecordId} :
    t.records.get? id = none ↔ ∀ record ∈ t.records.values, record.id ≠ id := by
  constructor
  · rintro absent record listed rfl
    rw [sound.get?_of_mem_records listed] at absent
    cases absent
  · intro unused
    cases found : t.records.get? id with
    | none => rfl
    | some record =>
        exact absurd (sound.record_id found) (unused record (Keyed.mem_values_iff.mpr ⟨id, found⟩))

/-! ## The services settle -/

namespace Service

variable {t : Tables}

private theorem reads (c : StoreCall) (_ : c.isWrite = false) : anyCall t c := trivial

theorem settles_createDirectory {code : DirectoryCode} (untaken : t.codeTaken code = false)
    (draft : DirectoryDraft) :
    Meets anyCall (fun result _ => Settles t (.createDirectory code draft) (result.map Answer.directory))
      (createDirectory code draft) t := by
  have settles {result : Except (Stop ServiceError) Directory} (ordinary : Ordinary result) :
      Settles t (.createDirectory code draft) (result.map Answer.directory) :=
    .of_unnamed rfl rfl (ordinary.map _)
  unfold createDirectory
  rw [meets_bind, meets_validated]
  cases passed : draft.checkShape with
  | error fault => exact settles (DirectoryDraft.isInternal_of_checkShape passed)
  | ok checked =>
      rw [Except.mapError, continues_ok, meets_bind, References.meets_checkCreation _ reads]
      have checkedTargets := t.ordinary_targetsOutcome (FieldDefinition.referenceTargets checked.fields)
      cases complete : t.targetsOutcome (FieldDefinition.referenceTargets checked.fields) with
      | error stop =>
          rw [complete] at checkedTargets
          exact settles checkedTargets
      | ok _ =>
          have stored : Tables.answer (.createDirectory code checked) t =
              (.ok (t.nextDirectory code checked), (t.createDirectory code checked).2) := by
            simp only [Tables.answer, Tables.createDirectory, untaken, Bool.false_eq_true, if_false]
          exact (meets_call_ok stored _).mpr ⟨trivial, settles trivial⟩

theorem settles_getDirectory (id : DirectoryId) :
    Meets anyCall (fun result _ => Settles t (.getDirectory id) (result.map Answer.directory))
      (getDirectory id) t := by
  rw [meets_getDirectory _ reads]
  cases found : t.directories.get? id with
  | none => exact .unknownDirectory rfl found
  | some directory => exact .of_directory rfl rfl found trivial

theorem settles_updateDirectory (sound : t.Sound) (id : DirectoryId) (draft : DirectoryDraft) :
    Meets anyCall (fun result _ => Settles t (.updateDirectory id draft) (result.map Answer.directory))
      (updateDirectory id draft) t := by
  unfold updateDirectory
  rw [meets_bind, meets_getDirectory _ reads]
  cases found : t.directories.get? id with
  | none => exact .unknownDirectory rfl found
  | some directory =>
      have settles {result : Except (Stop ServiceError) Directory} (ordinary : Ordinary result) :
          Settles t (.updateDirectory id draft) (result.map Answer.directory) :=
        .of_directory rfl rfl found (ordinary.map _)
      dsimp only
      rw [continues_ok, meets_bind, meets_validated]
      cases passed : draft.checkShape with
      | error fault => exact settles (DirectoryDraft.isInternal_of_checkShape passed)
      | ok checked =>
          rw [Except.mapError, continues_ok, meets_bind, References.meets_checkChange _ reads]
          have checkedTargets := t.ordinary_changeOutcome id (FieldDefinition.referenceTargets checked.fields)
          cases complete : t.changeOutcome id (FieldDefinition.referenceTargets checked.fields) with
          | error stop =>
              rw [complete] at checkedTargets
              exact settles checkedTargets
          | ok _ =>
              let changed : Directory := { directory with name := checked.name, fields := checked.fields }
              have stored : Tables.answer (.updateDirectory changed) t =
                  (.ok true, (t.updateDirectory changed).2) := by
                simp only [Tables.answer, Tables.updateDirectory, changed, sound.directory_id found, found]
              rw [continues_ok, meets_bind]
              exact (meets_call_ok stored _).mpr ⟨trivial, (meets_pure changed _ _).mpr (settles trivial)⟩

theorem settles_createRecord (sound : t.Sound) (intact : t.SchemaIntact) (owner : DirectoryId)
    (raw : RawValues) :
    Meets anyCall (fun result _ => Settles t (.createRecord owner raw) (result.map Answer.record))
      (createRecord owner raw) t := by
  unfold createRecord
  rw [meets_bind, meets_getDirectory _ reads]
  cases found : t.directories.get? owner with
  | none => exact .unknownDirectory rfl found
  | some directory =>
      have settles {result : Except (Stop ServiceError) Record} (ordinary : Ordinary result) :
          Settles t (.createRecord owner raw) (result.map Answer.record) :=
        .of_directory rfl rfl found (ordinary.map _)
      dsimp only
      rw [continues_ok, meets_bind, meets_checkedValues _ reads]
      have checkedValues := Tables.ordinary_valuesOutcome (intact _ _ found).shape t raw
      cases checked : t.valuesOutcome directory.fields raw with
      | error stop =>
          rw [checked] at checkedValues
          exact settles checkedValues
      | ok values =>
          have present : t.directories.contains directory.id = true :=
            Keyed.contains_iff.mpr ⟨_, sound.directory_id found ▸ found⟩
          have stored : Tables.answer (.createRecord directory.id values) t =
              (.ok (t.nextRecord directory.id values), (t.createRecord directory.id values).2) := by
            simp only [Tables.answer, Tables.createRecord, present, if_true]
          exact (meets_call_ok stored _).mpr ⟨trivial, settles trivial⟩

theorem settles_updateRecord (sound : t.Sound) (intact : t.SchemaIntact) (id : RecordId)
    (raw : RawValues) :
    Meets anyCall (fun result _ => Settles t (.updateRecord id raw) (result.map Answer.record))
      (updateRecord id raw) t := by
  unfold updateRecord
  rw [meets_bind, meets_getRecord _ reads]
  cases found : t.records.get? id with
  | none => exact .unknownRecord rfl found
  | some record =>
      have settles {result : Except (Stop ServiceError) Record} (ordinary : Ordinary result) :
          Settles t (.updateRecord id raw) (result.map Answer.record) :=
        .of_record rfl rfl found (ordinary.map _)
      -- A stored record has its directory, so this look-up does not fail.
      rcases Keyed.contains_iff.mp (sound.owner_stored found) with ⟨directory, owned⟩
      dsimp only
      rw [continues_ok, meets_bind, meets_getDirectory _ reads, owned]
      dsimp only
      rw [continues_ok, meets_bind, meets_checkedValues _ reads]
      have checkedValues := Tables.ordinary_valuesOutcome (intact _ _ owned).shape t raw
      cases checked : t.valuesOutcome directory.fields raw with
      | error stop =>
          rw [checked] at checkedValues
          exact settles checkedValues
      | ok values =>
          have stored : Tables.answer (.updateRecord id values) t =
              (.ok true, (t.updateRecord id values).2) := by
            simp only [Tables.answer, Tables.updateRecord, found]
          rw [continues_ok, meets_bind]
          exact (meets_call_ok stored _).mpr ⟨trivial, (meets_pure _ _ _).mpr (settles trivial)⟩

theorem settles_getRecord (id : RecordId) :
    Meets anyCall (fun result _ => Settles t (.getRecord id) (result.map Answer.record))
      (getRecord id) t := by
  rw [meets_getRecord _ reads]
  cases found : t.records.get? id with
  | none => exact .unknownRecord rfl found
  | some record => exact .of_record rfl rfl found trivial

theorem settles_deleteRecord (id : RecordId) :
    Meets anyCall (fun result _ => Settles t (.deleteRecord id) (result.map fun _ => Answer.nothing))
      (deleteRecord id) t := by
  unfold deleteRecord
  rw [meets_bind]
  cases found : t.records.get? id with
  | none =>
      have absent : Tables.answer (.deleteRecord id) t = (.ok false, t) := by
        simp [Tables.answer, Tables.deleteRecord, Keyed.contains, found]
      exact (meets_call_ok absent _).mpr ⟨trivial, (meets_fail _ _ _).mpr (.unknownRecord rfl found)⟩
  | some record =>
      have removed : Tables.answer (.deleteRecord id) t = (.ok true, (t.deleteRecord id).2) := by
        simp [Tables.answer, Tables.deleteRecord, Keyed.contains, found]
      exact (meets_call_ok removed _).mpr
        ⟨trivial, (meets_pure () _ _).mpr (.of_record rfl rfl found trivial)⟩

theorem settles_listRecords (owner : DirectoryId) (search : Option String) (page : PageRequest) :
    Meets anyCall (fun result _ => Settles t (.listRecords owner search page) (result.map Answer.page))
      (listRecords owner search page) t := by
  unfold listRecords
  rw [meets_bind, meets_getDirectory _ reads]
  cases found : t.directories.get? owner with
  | none => exact .unknownDirectory rfl found
  | some directory =>
      have settles (result : Page Record) : Settles t (.listRecords owner search page) (.ok (.page result)) :=
        .of_directory rfl rfl found trivial
      exact (meets_call_ok (c := .queryRecords _ _) rfl _).mpr ⟨trivial, settles _⟩

theorem settles_listAllRecords (owner : DirectoryId) (search : Option String) :
    Meets anyCall (fun result _ => Settles t (.listAllRecords owner search) (result.map Answer.records))
      (listAllRecords owner search) t := by
  unfold listAllRecords
  rw [meets_bind, meets_getDirectory _ reads]
  cases found : t.directories.get? owner with
  | none => exact .unknownDirectory rfl found
  | some directory =>
      dsimp only
      rw [continues_ok, meets_bind]
      exact (meets_call_ok (c := .queryRecords _ _) rfl _).mpr
        ⟨trivial, (meets_pure _ _ _).mpr (.of_directory rfl rfl found trivial)⟩

end Service

/-- Every service settles, where the schema is intact and the code is not taken. -/
theorem Operation.settles_run {t : Tables} (sound : t.Sound) (intact : t.SchemaIntact) {operation : Operation}
    (service : operation.isService = true)
    (untaken : ∀ code, operation.code? = some code → t.codeTaken code = false) :
    Settles t operation (operation.task.run Tables.answer t).1 := by
  suffices meets : Meets anyCall (fun outcome _ => Settles t operation outcome) operation.task t from
    meets.run
  cases operation with
  | createDirectory code draft =>
      exact (meets_map _ _ _ t).mpr (Service.settles_createDirectory (untaken code rfl) draft)
  | updateDirectory id draft => exact (meets_map _ _ _ t).mpr (Service.settles_updateDirectory sound id draft)
  | getDirectory id => exact (meets_map _ _ _ t).mpr (Service.settles_getDirectory id)
  | listDirectories =>
      refine (meets_map _ _ _ t).mpr ((meets_call_ok (c := .listDirectories) rfl _).mpr ⟨trivial, ?_⟩)
      exact .of_unnamed rfl rfl trivial
  | createRecord owner raw =>
      exact (meets_map _ _ _ t).mpr (Service.settles_createRecord sound intact owner raw)
  | updateRecord id raw => exact (meets_map _ _ _ t).mpr (Service.settles_updateRecord sound intact id raw)
  | getRecord id => exact (meets_map _ _ _ t).mpr (Service.settles_getRecord id)
  | deleteRecord id => exact (meets_map _ _ _ t).mpr (Service.settles_deleteRecord id)
  | listRecords owner search page =>
      exact (meets_map _ _ _ t).mpr (Service.settles_listRecords owner search page)
  | listAllRecords owner search =>
      exact (meets_map _ _ _ t).mpr (Service.settles_listAllRecords owner search)
  | store | checkCreation | checkChange | checkValues => cases service

namespace Settles

variable {t : Tables} {operation : Operation} {outcome : Outcome}

/-- Where nothing is broken and nothing of the storage fails, the caller is told so. -/
theorem isClientError (settles : Settles t operation outcome) {error : ServiceError}
    (failed : outcome = .error (.because error)) : error.isClientError = true := by
  cases settles with
  | unknownDirectory | unknownRecord =>
      cases failed
      rfl
  | known _ _ ordinary =>
      rw [failed] at ordinary
      cases error with
      | validation fault =>
          have faultless : fault.isInternal = false := ordinary
          rw [ServiceError.isClientError, faultless]
          rfl
      | directoryNotFound | recordNotFound | store => cases ordinary

/-- A directory is reported as missing exactly where the operation names one that is not stored. -/
theorem directoryNotFound_iff (settles : Settles t operation outcome) (sound : t.Sound) (id : DirectoryId) :
    outcome = .error (.because (.directoryNotFound id)) ↔
      operation.directory? = some id ∧ ∀ directory ∈ t.directories.values, directory.id ≠ id := by
  rw [← sound.directories_get?_eq_none_iff]
  constructor
  · intro failed
    cases settles with
    | unknownDirectory named absent =>
        cases failed
        exact ⟨named, absent⟩
    | unknownRecord => cases failed
    | known _ _ ordinary =>
        rw [failed] at ordinary
        cases ordinary
  · rintro ⟨named, absent⟩
    cases settles with
    | unknownDirectory alsoNamed =>
        rw [named] at alsoNamed
        cases alsoNamed
        rfl
    | unknownRecord recorded =>
        rw [Operation.record?_of_directory? named] at recorded
        cases recorded
    | known directory _ _ =>
        rcases Keyed.contains_iff.mp (directory id named) with ⟨stored, found⟩
        rw [absent] at found
        cases found

/-- A record is reported as missing exactly where the operation names one that is not stored. -/
theorem recordNotFound_iff (settles : Settles t operation outcome) (sound : t.Sound) (id : RecordId) :
    outcome = .error (.because (.recordNotFound id)) ↔
      operation.record? = some id ∧ ∀ record ∈ t.records.values, record.id ≠ id := by
  rw [← sound.records_get?_eq_none_iff]
  constructor
  · intro failed
    cases settles with
    | unknownDirectory => cases failed
    | unknownRecord named absent =>
        cases failed
        exact ⟨named, absent⟩
    | known _ _ ordinary =>
        rw [failed] at ordinary
        cases ordinary
  · rintro ⟨named, absent⟩
    cases settles with
    | unknownDirectory directed =>
        rw [Operation.record?_of_directory? directed] at named
        cases named
    | unknownRecord alsoNamed =>
        rw [named] at alsoNamed
        cases alsoNamed
        rfl
    | known _ record _ =>
        rcases Keyed.contains_iff.mp (record id named) with ⟨stored, found⟩
        rw [absent] at found
        cases found

end Settles

namespace Session

/-- After a run without bare writes of the store, a service with a code that is not taken fails only for what
it was sent.  It reports a directory or a record as missing exactly where it names one that is not stored. -/
theorem settles_of_guarded_run {steps : List Step} (guarded : ∀ step ∈ steps, step.isGuarded = true)
    {operation : Operation} (service : operation.isService = true)
    (untaken : ∀ code, operation.code? = some code →
      (start.steps steps).2.working.codeTaken code = false) :
    let session := (start.steps steps).2
    let outcome := (session.step (.run operation)).1
    (∀ error, outcome = .error (.because error) → error.isClientError = true) ∧
      (∀ id, outcome = .error (.because (.directoryNotFound id)) ↔
        operation.directory? = some id ∧
          ∀ directory ∈ session.working.directories.values, directory.id ≠ id) ∧
      ∀ id, outcome = .error (.because (.recordNotFound id)) ↔
        operation.record? = some id ∧ ∀ record ∈ session.working.records.values, record.id ≠ id := by
  have kept : ∀ t c, t.Sound → t.SchemaIntact → t.Admits c → (Tables.answer c t).2.SchemaIntact :=
    fun t c sound intact admitted => intact.answer sound admitted
  rcases (satisfies_of_admitted Tables.schemaIntact_empty kept guarded).working with ⟨sound, intact⟩
  have settles := Operation.settles_run sound intact service untaken
  exact ⟨fun _ failed => settles.isClientError failed, settles.directoryNotFound_iff sound,
    settles.recordNotFound_iff sound⟩

/-- A record, and a field of another directory that points at the first one.  What the record of the latter
refers to is deleted. -/
def danglingSteps : List Step :=
  [.run (.createDirectory default ⟨"Person", []⟩),
    .run (.createDirectory .ones ⟨"Company", [⟨"Owner", .reference, some ⟨1⟩⟩]⟩),
    .run (.createRecord ⟨1⟩ .empty),
    .run (.createRecord ⟨2⟩ (.ofList [("Owner", .integer 1)])),
    .commit,
    .run (.deleteRecord ⟨1⟩)]

/-- The record is there, and so it is the caller's reference that is reported. -/
theorem settles_of_dangling_run :
    let session := (start.steps danglingSteps).2
    let outcome := (session.step (.run (.updateRecord ⟨2⟩ (.ofList [("Owner", .string "1")])))).1
    outcome = .error (.because (.validation (.danglingReference "Owner" ⟨1⟩))) ∧
      (∀ error, outcome = .error (.because error) → error.isClientError = true) ∧
      (∀ id, outcome = .error (.because (.directoryNotFound id)) ↔
        none = some id ∧ ∀ directory ∈ session.working.directories.values, directory.id ≠ id) ∧
      ∀ id, outcome = .error (.because (.recordNotFound id)) ↔
        some ⟨2⟩ = some id ∧ ∀ record ∈ session.working.records.values, record.id ≠ id :=
  ⟨by decide +kernel, settles_of_guarded_run (by decide) rfl fun _ drawn => by cases drawn⟩

end Session
end RecordDirectory
