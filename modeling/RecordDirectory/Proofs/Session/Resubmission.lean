import RecordDirectory.Proofs.Session.Acceptance
import RecordDirectory.Proofs.Session.Conformance
import RecordDirectory.Proofs.Typing.Plain

namespace RecordDirectory

open RecordDirectory.Task

/-!
# Sending a record again

A client that shows a record and sends it back unchanged should change nothing.  The values go out in their
plain form, and the service types that form anew, under the fields that the directory has by then.

If these are still the fields that the record was last written under, typing gives its values back.  What
remains is the check of its references, which may have changed its mind, since the records that they name
can be deleted.  It cannot find them in another directory instead: an id is not handed out again, and no
record changes its owner.  So the first reference to a deleted record is all that can be wrong.
-/

/-! ## What a record was last written with -/

namespace Tables

/-- What is true of all values that are typed under the fields of a well-shaped directory is true of every
stored record and the fields that it was last written under. -/
theorem lastWritten_of_guarded {property : List FieldDefinition → Values → Prop}
    (ofTyped : ∀ {name fields raw values}, WellShaped name fields →
      Typing.typeValues fields raw = .ok values → property fields values)
    {history : List Operation} (guarded : ∀ operation ∈ history, operation.isGuarded = true)
    {id : RecordId} {record : Record} (stored : (tablesAfter history).records.get? id = some record) :
    ∃ fields, lastFields? record.id history = some fields ∧ property fields record.values := by
  induction history with
  | nil => cases stored
  | cons operation earlier inductionHypothesis =>
      rcases List.forall_mem_cons.mp guarded with ⟨latest, rest⟩
      have valid := valid_of_guarded rest
      have effect : Effect (tablesAfter earlier) operation (outcomeAfter operation earlier)
          (tablesAfter (operation :: earlier)) := Operation.effect_run valid.sound latest
      rcases effect.written_or_kept valid.sound stored with
        ⟨directory, raw, found, accepted, written⟩ | ⟨found, unwritten⟩
      · refine ⟨directory.fields, ?_, ofTyped (valid.schema _ _ found).shape accepted.typed⟩
        rw [lastFields?, written]
        rfl
      · rcases inductionHypothesis rest found with ⟨fields, last, holds⟩
        refine ⟨fields, ?_, holds⟩
        rw [lastFields?, unwritten, last]
        rfl

/-- Typing the plain form of a stored record under the fields that it was last written under gives its
values. -/
theorem typeValues_plain_of_guarded {history : List Operation}
    (guarded : ∀ operation ∈ history, operation.isGuarded = true) {id : RecordId} {record : Record}
    (stored : (tablesAfter history).records.get? id = some record) {fields : List FieldDefinition}
    (last : lastFields? record.id history = some fields) :
    Typing.typeValues fields record.values.plain = .ok record.values := by
  have written := lastWritten_of_guarded
    (fun shape typed => Typing.typeValues_plain (WellShaped.distinct shape) typed) guarded stored
  rcases written with ⟨others, alsoLast, typed⟩
  rw [last] at alsoLast
  cases alsoLast
  exact typed

end Tables

/-! ## The references of a conforming record -/

namespace Tables

variable {t : Tables}

/-- What is wrong with the reference under a field, if the record that it names is gone. -/
def stale? (t : Tables) (values : Values) (field : FieldDefinition) : Option ValidationError :=
  match values.get? field.name with
  | some (.reference id) =>
    if t.records.contains id then none else some (.danglingReference field.name id)
  | _ => none

theorem stale?_eq_some_iff {values : Values} {field : FieldDefinition} {error : ValidationError} :
    t.stale? values field = some error ↔ ∃ id, values.get? field.name = some (.reference id) ∧
      t.records.contains id = false ∧ error = .danglingReference field.name id := by
  unfold stale?
  cases held : values.get? field.name with
  | none => simp
  | some value =>
      cases value with
      | text | number => simp
      | reference id =>
          cases known : t.records.contains id with
          | true => simp [known]
          | false => simpa [known] using eq_comm

theorem stale?_eq_none_iff {values : Values} {field : FieldDefinition} :
    t.stale? values field = none ↔ ∀ id, values.get? field.name = some (.reference id) →
      t.records.contains id = true := by
  unfold stale?
  cases held : values.get? field.name with
  | none => simp
  | some value =>
      cases value with
      | text | number => simp
      | reference id => cases known : t.records.contains id <;> simp [known]

/-- A reference has no other fault than that its record is gone, where what is stored has the owner that is
expected. -/
theorem faultOf?_of_owned {field : FieldDefinition} {values : Values} {id : RecordId} {target : DirectoryId}
    (held : values.get? field.name = some (.reference id))
    (owned : ∀ record, t.records.get? id = some record → record.directory = target) :
    t.faultOf? ⟨field.name, id, target⟩ = t.stale? values field := by
  cases found : t.records.get? id with
  | none => simp [faultOf?, stale?, held, Keyed.contains, found]
  | some record => simp [faultOf?, stale?, held, Keyed.contains, found, owned record found]

/-- The fault of a bag of values is the first stale reference, where every reference is expected to be where
its field points. -/
theorem referenceFault?_eq_stale {fields : List FieldDefinition} {values : Values}
    (owned : ∀ field ∈ fields, ∀ id, values.get? field.name = some (.reference id) →
      ∃ target, field.referenceTarget? = some target ∧
        ∀ record, t.records.get? id = some record → record.directory = target) :
    t.referenceFault? fields values = fields.findSome? (t.stale? values) := by
  have points : ∀ field ∈ fields, References.Points values field := by
    intro field listed id held pointless
    rcases owned field listed id (References.recordOf?_eq_some_iff.mp held) with ⟨target, pointed, _⟩
    rw [pointless] at pointed
    cases pointed
  rw [referenceFault?_eq, find?_isPointless_eq_none_iff.mpr points]
  dsimp only
  rw [← List.head?_filterMap, ← List.head?_filterMap]
  refine congrArg List.head? (List.filterMap_congr fun field listed => ?_)
  cases named : References.recordOf? values field with
  | none =>
      have fresh : t.stale? values field = none := by
        refine stale?_eq_none_iff.mpr fun id held => ?_
        rw [References.recordOf?_eq_some_iff.mpr held] at named
        cases named
      rw [fresh, fieldFault?, References.ofField?, named]
      rfl
  | some id =>
      have held := References.recordOf?_eq_some_iff.mp named
      rcases owned field listed id held with ⟨target, pointed, owner⟩
      have collected := References.ofField?_eq_some_iff.mpr ⟨id, target, named, pointed, rfl⟩
      rw [fieldFault?, collected, Option.bind_some, faultOf?_of_owned held owner]

/-- Of the references in conforming values each is expected where its field points. -/
theorem Conforms.owned {name : String} {fields : List FieldDefinition} {values : Values}
    (conforms : t.Conforms fields values) (shape : WellShaped name fields) {field : FieldDefinition}
    (listed : field ∈ fields) {id : RecordId} (held : values.get? field.name = some (.reference id)) :
    ∃ target, field.referenceTarget? = some target ∧
      ∀ record, t.records.get? id = some record → record.directory = target := by
  rcases conforms.kind field listed with ⟨value, found, kind⟩
  rw [held] at found
  cases found
  rcases conforms.reference field listed kind.symm with ⟨target, other, selected, also, _, _, owned⟩
  rw [held] at also
  cases also
  exact ⟨target, (shape.referenceTarget?_eq listed).trans selected, owned⟩

/-- The first field whose reference names a record that is not stored. -/
structure FirstStale (t : Tables) (values : Values) (fields : List FieldDefinition) (field : FieldDefinition)
    (id : RecordId) : Prop where
  held : values.get? field.name = some (.reference id)
  gone : t.records.contains id = false
  first : ∃ before after, fields = before ++ field :: after ∧ ∀ earlier ∈ before, ∀ other,
    values.get? earlier.name = some (.reference other) → t.records.contains other = true

theorem firstStale_of_findSome? {fields : List FieldDefinition} {values : Values} {error : ValidationError}
    (found : fields.findSome? (t.stale? values) = some error) :
    ∃ field id, t.FirstStale values fields field id ∧ error = .danglingReference field.name id := by
  rcases List.findSome?_eq_some_iff.mp found with ⟨before, field, after, split, stale, fresh⟩
  rcases stale?_eq_some_iff.mp stale with ⟨id, held, gone, same⟩
  have earlierStored : ∀ earlier ∈ before, ∀ other,
      values.get? earlier.name = some (.reference other) → t.records.contains other = true :=
    fun earlier listed => stale?_eq_none_iff.mp (fresh earlier listed)
  exact ⟨field, id, ⟨held, gone, before, after, split, earlierStored⟩, same⟩

end Tables

/-! ## The change itself -/

namespace Tables

variable {t : Tables}

/-- Giving a record the values that it has changes nothing. -/
theorem updateRecord_same {id : RecordId} {record : Record} (stored : t.records.get? id = some record) :
    (t.updateRecord id record.values).2 = t := by
  simp only [updateRecord, stored, Keyed.insert_of_get? stored]

/-- A change to the values that a record has ends with its first stale reference, or with the record. -/
def resubmitted (t : Tables) (record : Record) (fields : List FieldDefinition) : Outcome :=
  match fields.findSome? (t.stale? record.values) with
  | none => .ok (.record record)
  | some error => .error (.because (.validation error))

/-- This is how it ends where typing gives the values back and a reference can only be stale. -/
theorem run_updateRecord_plain {id : RecordId} {record : Record} {directory : Directory}
    (found : t.records.get? id = some record) (owned : t.directories.get? record.directory = some directory)
    (typed : Typing.typeValues directory.fields record.values.plain = .ok record.values)
    (faults : t.referenceFault? directory.fields record.values =
      directory.fields.findSome? (t.stale? record.values)) :
    (Operation.updateRecord id record.values.plain).task.run Tables.answer t =
      (t.resubmitted record directory.fields, t) := by
  rw [Operation.run_updateRecord found owned, valuesOutcome, typed]
  dsimp only
  rw [referencesOutcome, faults, resubmitted]
  cases directory.fields.findSome? (t.stale? record.values) with
  | none => exact congrArg (Prod.mk _) (updateRecord_same found)
  | some error => rfl

theorem resubmitted_of_stored {record : Record} (fields : List FieldDefinition)
    (stored : ∀ name id, record.values.get? name = some (.reference id) → t.records.contains id = true) :
    t.resubmitted record fields = .ok (.record record) := by
  have fresh : fields.findSome? (t.stale? record.values) = none :=
    List.findSome?_eq_none_iff.mpr fun field _ => stale?_eq_none_iff.mpr fun id => stored field.name id
  rw [resubmitted, fresh]

/-- A stale reference of a conforming record is under one of the fields, and so there is a first one. -/
theorem resubmitted_of_gone {record : Record} {fields : List FieldDefinition}
    (conforms : t.Conforms fields record.values) {name : String} {id : RecordId}
    (held : record.values.get? name = some (.reference id)) (gone : t.records.contains id = false) :
    ∃ field id, t.FirstStale record.values fields field id ∧
      t.resubmitted record fields = .error (.because (.validation (.danglingReference field.name id))) := by
  have named : name ∈ fields.map FieldDefinition.name :=
    (conforms.keys name).mp (Keyed.mem_keys_iff.mpr (held ▸ rfl))
  rcases List.mem_map.mp named with ⟨holder, listed, rfl⟩
  cases found : fields.findSome? (t.stale? record.values) with
  | none =>
      have stored := stale?_eq_none_iff.mp (List.findSome?_eq_none_iff.mp found holder listed) id held
      rw [gone] at stored
      cases stored
  | some error =>
      rcases firstStale_of_findSome? found with ⟨field, other, first, rfl⟩
      refine ⟨field, other, first, ?_⟩
      rw [resubmitted, found]

end Tables

namespace Session

/-- After a run without bare writes of the store, take a record whose directory has the fields that the record
was last written under.  Sending the plain form of its values changes nothing.  It is answered with the
record if all records that it refers to are stored, and else with its first reference to one that is not. -/
theorem resubmission_of_guarded_run {steps : List Step} (guarded : ∀ step ∈ steps, step.isGuarded = true)
    {record : Record} (listed : record ∈ (start.steps steps).2.working.records.values) {directory : Directory}
    (owned : (start.steps steps).2.working.directories.get? record.directory = some directory)
    (current : lastFields? record.id (History.start.steps steps).working = some directory.fields) :
    let session := (start.steps steps).2
    let answered := session.step (.run (.updateRecord record.id record.values.plain))
    answered.2 = session ∧
      ((∀ name id, record.values.get? name = some (.reference id) →
          session.working.records.contains id = true) →
        answered.1 = .ok (.record record)) ∧
      ((∃ name id, record.values.get? name = some (.reference id) ∧
          session.working.records.contains id = false) →
        ∃ field id, session.working.FirstStale record.values directory.fields field id ∧
          answered.1 = .error (.because (.validation (.danglingReference field.name id)))) := by
  have survive := (History.guarded_start.steps guarded).working
  have leads : tablesAfter (History.start.steps steps).working = (start.steps steps).2.working :=
    congrArg Session.working (History.session_steps History.start steps)
  have valid := Tables.valid_of_guarded survive
  rw [← leads] at listed owned
  have found := valid.sound.get?_of_mem_records listed
  -- The record conforms to the fields of its last write, which by assumption are those of the directory.
  rcases valid.records _ _ found with ⟨fields, last, conforms⟩
  rw [current] at last
  cases last
  have shape := (valid.schema _ _ owned).shape
  have faults := Tables.referenceFault?_eq_stale fun field listed id held => conforms.owned shape listed held
  have typed := Tables.typeValues_plain_of_guarded survive found current
  have ending := Tables.run_updateRecord_plain found owned typed faults
  rw [leads] at ending conforms
  generalize (start.steps steps).2 = session at ending conforms ⊢
  have answered : session.step (.run (.updateRecord record.id record.values.plain)) =
      (session.working.resubmitted record directory.fields, session) := by
    rw [step, ending]
  dsimp only
  rw [answered]
  refine ⟨rfl, fun stored => Tables.resubmitted_of_stored _ stored, ?_⟩
  rintro ⟨name, id, held, gone⟩
  exact Tables.resubmitted_of_gone conforms held gone

def companyFields : List FieldDefinition :=
  [⟨"Rate", .number, none⟩, ⟨"Owner", .reference, some ⟨1⟩⟩, ⟨"Agent", .reference, some ⟨1⟩⟩]

/-- Records of persons, two of which a company names, and another company that names one of them twice.  The
fields of the companies are replaced and put back, and one person is deleted. -/
def staleSteps : List Step :=
  [.run (.createDirectory default ⟨"Person", []⟩),
    .run (.createDirectory .ones ⟨"Company", companyFields⟩),
    .run (.createRecord ⟨1⟩ .empty),
    .run (.createRecord ⟨1⟩ .empty),
    .run (.createRecord ⟨2⟩ (.ofList [("Rate", .string "1.50"), ("Owner", .integer 1), ("Agent", .string "2")])),
    .run (.createRecord ⟨2⟩ (.ofList [("Rate", .integer 0), ("Owner", .integer 1), ("Agent", .integer 1)])),
    .run (.updateDirectory ⟨2⟩ ⟨"Company", []⟩),
    .commit,
    .run (.updateDirectory ⟨2⟩ ⟨"Firm", companyFields⟩),
    .run (.deleteRecord ⟨2⟩)]

def staleRecord : Record :=
  ⟨⟨3⟩, ⟨2⟩, .ofList [("Rate", .number ⟨150, 2, by decide, by decide⟩), ("Owner", .reference ⟨1⟩),
    ("Agent", .reference ⟨2⟩)]⟩

def freshRecord : Record :=
  ⟨⟨4⟩, ⟨2⟩, .ofList [("Rate", .number .zero), ("Owner", .reference ⟨1⟩), ("Agent", .reference ⟨1⟩)]⟩

/-- The company with the deleted person cannot be sent again, although the field before is fine.  The other
one can, and neither changes anything. -/
theorem resubmission_of_stale_run :
    let session := (start.steps staleSteps).2
    let stale := session.step (.run (.updateRecord ⟨3⟩ staleRecord.values.plain))
    let fresh := session.step (.run (.updateRecord ⟨4⟩ freshRecord.values.plain))
    stale.1 = .error (.because (.validation (.danglingReference "Agent" ⟨2⟩))) ∧ stale.2 = session ∧
      (∃ field id, session.working.FirstStale staleRecord.values companyFields field id ∧
        stale.1 = .error (.because (.validation (.danglingReference field.name id)))) ∧
      fresh.1 = .ok (.record freshRecord) ∧ fresh.2 = session :=
  have owned : (start.steps staleSteps).2.working.directories.get? ⟨2⟩ =
      some ⟨⟨2⟩, .ones, "Firm", companyFields⟩ := by decide +kernel
  have stale := @resubmission_of_guarded_run staleSteps (by decide) staleRecord (by decide +kernel) _ owned
    (by decide +kernel)
  have fresh := @resubmission_of_guarded_run staleSteps (by decide) freshRecord (by decide +kernel) _ owned
    (by decide +kernel)
  ⟨by decide +kernel, stale.1, stale.2.2 ⟨"Agent", ⟨2⟩, by decide +kernel, by decide +kernel⟩,
    by decide +kernel, fresh.1⟩

end Session
end RecordDirectory
