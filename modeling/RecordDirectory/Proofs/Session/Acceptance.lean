import RecordDirectory.Proofs.Session.Schema
import RecordDirectory.Proofs.Session.Tallies
import RecordDirectory.Proofs.Store.FieldByField

namespace RecordDirectory

open RecordDirectory.Task

/-!
# What makes a record acceptable

A record is accepted by the same rule whether it is new or replaces an earlier one.  The input has to type
under the fields that the directory has by now, and every reference in the typed values has to name a stored
record of the directory that its field points at.  The record that is replaced has no say in this.

Typing comes first as a whole.  So a reference is not looked up before all fields have a value, and of two
faults the one of typing is reported, also where its field stands behind the other.

A change looks for the directory of its record and would end differently without it.  That this directory is
stored is an invariant of the tables (`Tables.Sound`).
-/

/-! ## How the two services end -/

namespace Tables

/-- The record that a creation adds, and the tables that it leaves. -/
def created (t : Tables) (owner : DirectoryId) (raw : RawValues) : Except (Stop ServiceError) Record × Tables :=
  match t.directories.get? owner with
  | none => (.error (.because (.directoryNotFound owner)), t)
  | some directory =>
    match t.valuesOutcome directory.fields raw with
    | .error stop => (.error stop, t)
    | .ok values =>
      ((t.createRecord directory.id values).1.mapError fun error => .because (.store error),
        (t.createRecord directory.id values).2)

/-- The record that a change puts in the place of the stored one. -/
def changed (t : Tables) (id : RecordId) (raw : RawValues) : Except (Stop ServiceError) Record :=
  match t.records.get? id with
  | none => .error (.because (.recordNotFound id))
  | some record =>
    match t.directories.get? record.directory with
    | none => .error (.because (.directoryNotFound record.directory))
    | some directory => (t.valuesOutcome directory.fields raw).map fun values => { record with values := values }

/-- The tables with the record that a change has ended with, if there is one. -/
def put (t : Tables) (id : RecordId) : Except (Stop ServiceError) Record → Tables
  | .ok record => { t with records := t.records.insert id record }
  | .error _ => t

end Tables

namespace Operation

variable {t : Tables} {directory : Directory}

theorem run_createRecord_created (t : Tables) (owner : DirectoryId) (raw : RawValues) :
    (createRecord owner raw).task.run Tables.answer t =
      ((t.created owner raw).1.map Answer.record, (t.created owner raw).2) := by
  have reads (c : StoreCall) (_ : c.isWrite = false) : anyCall t c := trivial
  suffices meets : Meets anyCall (fun outcome after => (outcome, after) = _) (createRecord owner raw).task t from
    meets.run
  rw [task, meets_map]
  unfold Service.createRecord Tables.created
  rw [meets_bind, Service.meets_getDirectory _ reads]
  cases t.directories.get? owner with
  | none => rfl
  | some directory =>
      dsimp only
      rw [continues_ok, meets_bind, Service.meets_checkedValues _ reads]
      cases t.valuesOutcome directory.fields raw with
      | error stop => rfl
      | ok values => exact (meets_call (.createRecord directory.id values) _ t).mpr ⟨trivial, rfl⟩

theorem run_updateRecord_changed (t : Tables) (id : RecordId) (raw : RawValues) :
    (updateRecord id raw).task.run Tables.answer t =
      ((t.changed id raw).map Answer.record, t.put id (t.changed id raw)) := by
  have reads (c : StoreCall) (_ : c.isWrite = false) : anyCall t c := trivial
  suffices meets : Meets anyCall (fun outcome after => (outcome, after) = _) (updateRecord id raw).task t from
    meets.run
  rw [task, meets_map]
  unfold Service.updateRecord Tables.changed
  rw [meets_bind, Service.meets_getRecord _ reads]
  cases found : t.records.get? id with
  | none => rfl
  | some record =>
      dsimp only
      rw [continues_ok, meets_bind, Service.meets_getDirectory _ reads]
      cases t.directories.get? record.directory with
      | none => rfl
      | some directory =>
          dsimp only
          rw [continues_ok, meets_bind, Service.meets_checkedValues _ reads]
          cases t.valuesOutcome directory.fields raw with
          | error stop => rfl
          | ok values =>
              have stored : Tables.answer (.updateRecord id values) t =
                  (.ok true, t.put id (.ok { record with values := values })) := by
                simp only [Tables.answer, Tables.updateRecord, found, Tables.put]
              rw [continues_ok, meets_bind]
              exact (meets_call_ok stored _).mpr ⟨trivial, (meets_pure _ _ _).mpr rfl⟩

/-- A creation in a stored directory ends as typing and the check of references do. -/
theorem run_createRecord {owner : DirectoryId} (stored : t.directories.get? owner = some directory)
    (named : directory.id = owner) (raw : RawValues) :
    (createRecord owner raw).task.run Tables.answer t =
      match t.valuesOutcome directory.fields raw with
      | .error stop => (.error stop, t)
      | .ok values => (.ok (.record (t.nextRecord owner values)), (t.createRecord owner values).2) := by
  have present : t.directories.contains owner = true := Keyed.contains_iff.mpr ⟨_, stored⟩
  simp only [run_createRecord_created, Tables.created, stored, named]
  cases t.valuesOutcome directory.fields raw with
  | error stop => rfl
  | ok values =>
      simp only [Tables.createRecord, present, if_true]
      rfl

/-- A change of a stored record ends as typing and the check of references do. -/
theorem run_updateRecord {id : RecordId} {record : Record} (found : t.records.get? id = some record)
    (owned : t.directories.get? record.directory = some directory) (raw : RawValues) :
    (updateRecord id raw).task.run Tables.answer t =
      match t.valuesOutcome directory.fields raw with
      | .error stop => (.error stop, t)
      | .ok values => (.ok (.record { record with values := values }), (t.updateRecord id values).2) := by
  simp only [run_updateRecord_changed, Tables.changed, found, owned]
  cases t.valuesOutcome directory.fields raw with
  | error stop => rfl
  | ok values => simp only [Tables.updateRecord, found, Except.map, Tables.put]

end Operation

/-! ## The common rule -/

namespace Tables

variable {t : Tables} {fields : List FieldDefinition} {values : Values}

/-- Every reference in values names a stored record of the directory that its field points at. -/
def Supports (t : Tables) (fields : List FieldDefinition) (values : Values) : Prop :=
  ∀ field ∈ fields, ∀ id, values.get? field.name = some (.reference id) →
    ∃ other, t.records.get? id = some other ∧ field.target = some other.directory

/-- Under the fields of a well-shaped directory this is all that the check of references asks. -/
theorem faultless_iff_supports {name : String} (shape : WellShaped name fields) :
    t.referenceFault? fields values = none ↔ t.Supports fields values := by
  rw [referenceFault?_eq_none_iff]
  refine forall₂_congr fun field listed => forall_congr' fun id => ?_
  rw [References.recordOf?_eq_some_iff, shape.referenceTarget?_eq listed]

/-- What becomes of input under the fields of a directory.  It is accepted with its typed values where the
tables support them.  Else it is refused by typing, or by the verdict on the references. -/
structure Judges (t : Tables) (fields : List FieldDefinition) (raw : RawValues)
    (outcome : Except (Stop ServiceError) Values) : Prop where
  accepted : ∀ values, outcome = .ok values ↔
    Typing.typeValues fields raw = .ok values ∧ t.Supports fields values
  untyped : ∀ stop, Typing.typeValues fields raw = .error stop → outcome = .error (stop.map .validation)
  verdict : ∀ values, Typing.typeValues fields raw = .ok values →
    t.Verdict fields values (outcome.map fun _ => ())

theorem judges_valuesOutcome {name : String} (shape : WellShaped name fields) (t : Tables) (raw : RawValues) :
    t.Judges fields raw (t.valuesOutcome fields raw) := by
  refine ⟨fun values => ?_, fun stop failed => ?_, fun values typed => ?_⟩
  · rw [valuesOutcome_eq_ok_iff, ← faultless_iff_supports shape]
    exact ⟨fun accepts => ⟨accepts.typed, accepts.faultless⟩, fun parts => ⟨parts.1, parts.2⟩⟩
  · rw [valuesOutcome, failed]
  · have verdict := t.verdict_referencesOutcome fields values
    rw [valuesOutcome, typed]
    dsimp only
    generalize t.referencesOutcome fields values = ending at verdict ⊢
    cases ending with
    | error stop => exact verdict
    | ok passed => exact verdict

end Tables

namespace Session

/-- One rule for the records of a directory, by which a session creates them and changes each of them. -/
structure Accepts (session : Session) (directory : Directory)
    (rule : RawValues → Except (Stop ServiceError) Values) : Prop where
  judges : ∀ raw, session.working.Judges directory.fields raw (rule raw)
  created : ∀ raw, (session.step (.run (.createRecord directory.id raw))).1 =
    (rule raw).map fun values => .record (session.working.nextRecord directory.id values)
  updated : ∀ record ∈ session.working.records.values, record.directory = directory.id →
    ∀ raw, (session.step (.run (.updateRecord record.id raw))).1 =
      (rule raw).map fun values => .record { record with values := values }

theorem accepts_of_stored {session : Session} (sound : session.working.Sound) {directory : Directory}
    (stored : session.working.directories.get? directory.id = some directory)
    (shape : WellShaped directory.name directory.fields) :
    session.Accepts directory (session.working.valuesOutcome directory.fields) := by
  refine ⟨Tables.judges_valuesOutcome shape session.working, fun raw => ?_, fun record listed owned raw => ?_⟩
  · rw [step, Operation.run_createRecord stored rfl]
    cases session.working.valuesOutcome directory.fields raw with
    | error stop => rfl
    | ok values => rfl
  · have found := sound.get?_of_mem_records listed
    rw [step, Operation.run_updateRecord found (owned ▸ stored)]
    cases session.working.valuesOutcome directory.fields raw with
    | error stop => rfl
    | ok values => rfl

/-- After a run without bare writes of the store, take any stored record.  Its directory is stored, and there
is one rule by which records are created there and by which this record, like the others, is changed. -/
theorem acceptance_of_guarded_run {steps : List Step} (guarded : ∀ step ∈ steps, step.isGuarded = true)
    {record : Record} (listed : record ∈ (start.steps steps).2.working.records.values) :
    ∃ directory ∈ (start.steps steps).2.working.directories.values, directory.id = record.directory ∧
      ∃ rule, (start.steps steps).2.Accepts directory rule := by
  have kept : ∀ t c, t.Sound → t.SchemaIntact → t.Admits c → (Tables.answer c t).2.SchemaIntact :=
    fun t c sound intact admitted => intact.answer sound admitted
  rcases (satisfies_of_admitted Tables.schemaIntact_empty kept guarded).working with ⟨sound, intact⟩
  generalize (start.steps steps).2 = session at listed sound intact ⊢
  have present := sound.owner_stored (sound.get?_of_mem_records listed)
  rcases Keyed.contains_iff.mp present with ⟨directory, owner⟩
  have named : directory.id = record.directory := sound.directory_id owner
  have stored : session.working.directories.get? directory.id = some directory := named ▸ owner
  have shape := (intact _ _ owner).shape
  exact ⟨directory, Keyed.mem_values_iff.mpr ⟨_, owner⟩, named, _, accepts_of_stored sound stored shape⟩

/-- Two persons and a company of the first one, who is deleted then. -/
def orphanSteps : List Step :=
  [.run (.createDirectory default ⟨"Person", []⟩),
    .run (.createDirectory .ones ⟨"Company", [⟨"Owner", .reference, some ⟨1⟩⟩, ⟨"Rate", .number, none⟩]⟩),
    .run (.createRecord ⟨1⟩ .empty),
    .run (.createRecord ⟨1⟩ .empty),
    .run (.createRecord ⟨2⟩ (.ofList [("Owner", .integer 1), ("Rate", .string "2.0")])),
    .commit,
    .run (.deleteRecord ⟨1⟩)]

def orphanCompany : Record :=
  ⟨⟨3⟩, ⟨2⟩, .ofList [("Owner", .reference ⟨1⟩), ("Rate", .number ⟨20, 1, by decide, by decide⟩)]⟩

/-- A company needs a person who is still there: neither its former owner nor the company itself will do.  A
rate that is no number is reported before them. -/
theorem acceptance_of_orphan_run :
    let company (owner : Int) (rate : String) : RawValues :=
      .ofList [("Owner", .integer owner), ("Rate", .string rate)]
    ∃ directory ∈ (start.steps orphanSteps).2.working.directories.values, directory.id = ⟨2⟩ ∧
      ∃ rule, (start.steps orphanSteps).2.Accepts directory rule ∧
        rule (company 2 "3.0") =
          .ok (.ofList [("Owner", .reference ⟨2⟩), ("Rate", .number ⟨30, 1, by decide, by decide⟩)]) ∧
        rule (company 1 "3.0") = .error (.because (.validation (.danglingReference "Owner" ⟨1⟩))) ∧
        rule (company 3 "3.0") =
          .error (.because (.validation (.referenceTypeMismatch "Owner" ⟨3⟩ ⟨2⟩ ⟨1⟩))) ∧
        rule (company 1 "half") = .error (.because (.validation (.fieldMustBeNumber "Rate"))) := by
  intro company
  have listed : orphanCompany ∈ (start.steps orphanSteps).2.working.records.values := by decide +kernel
  rcases @acceptance_of_guarded_run orphanSteps (by decide) orphanCompany listed with
    ⟨directory, directoryListed, named, rule, accepts⟩
  -- The rule can be seen from how a change of the company ends.
  have rule_eq {raw : RawValues} {expected : Except (Stop ServiceError) Values}
      (answered : ((start.steps orphanSteps).2.step (.run (.updateRecord orphanCompany.id raw))).1 =
        expected.map fun values => .record { orphanCompany with values := values }) : rule raw = expected := by
    rw [accepts.updated orphanCompany listed named.symm] at answered
    generalize rule raw = ending at answered ⊢
    cases ending <;> cases expected <;> cases answered <;> rfl
  exact ⟨directory, directoryListed, named, rule, accepts, rule_eq (by decide +kernel),
    rule_eq (by decide +kernel), rule_eq (by decide +kernel), rule_eq (by decide +kernel)⟩

end Session
end RecordDirectory
