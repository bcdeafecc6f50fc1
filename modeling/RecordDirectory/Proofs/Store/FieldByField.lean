import RecordDirectory.Proofs.Store.Checks

namespace RecordDirectory

open RecordDirectory.Task

/-!
# References field by field

The check of references looks at the fields twice.  It collects the references first, for which each field
that holds one has to point somewhere, and then asks for the owners of all the records that they name, in one
call and for each record once.

None of this shows in its answer.  A check that takes the fields one after another, and asks for each of them
on its own, ends in the same way on any tables: for fields that share a name, for fields that share a record
and point at different directories, and for fields that are not well shaped.  `Verdict` says which way that
is.  A field that points nowhere is reported before any record is looked for, and otherwise the first field
that does not have its record.
-/

namespace References

/-- Checks the reference under one field, with a look-up of its own. -/
def checkField (values : Values) (field : FieldDefinition) : Task Unit :=
  match ofField? values field with
  | none => pure ()
  | some reference => do
    let owners ← Task.call (.recordOwners [reference.record])
    match reference.fault? owners with
    | none => pure ()
    | some error => Task.fail (.validation error)

/-- Checks one field after another. -/
def checkInTurn (values : Values) : List FieldDefinition → Task Unit
  | [] => pure ()
  | field :: rest => do
    checkField values field
    checkInTurn values rest

/-- Checks the references in typed values field by field, once it is known that every field that holds one
points somewhere. -/
def checkFieldByField (fields : List FieldDefinition) (values : Values) : Task Unit :=
  match fields.find? (isPointless values) with
  | some field => Task.fail (.validation (.fieldMisconfigured field.name))
  | none => checkInTurn values fields

/-- A field that holds a reference points somewhere. -/
def Points (values : Values) (field : FieldDefinition) : Prop :=
  ∀ id, recordOf? values field = some id → field.referenceTarget? ≠ none

theorem isPointless_eq_false_iff {values : Values} {field : FieldDefinition} :
    isPointless values field = false ↔ Points values field := by
  rw [← Bool.not_eq_true, isPointless_iff]
  simp [Points]

/-- How a check ends that has found a fault, or none. -/
def ending : Option ValidationError → Except (Stop ServiceError) Unit
  | none => .ok ()
  | some error => .error (.because (.validation error))

end References

open References

namespace Tables

variable {t : Tables} {values : Values} {fields : List FieldDefinition}

/-- A reference under a field names a stored record of the directory that the field points at. -/
def Owned (t : Tables) (values : Values) (field : FieldDefinition) : Prop :=
  ∀ id, recordOf? values field = some id →
    ∃ record, t.records.get? id = some record ∧ field.referenceTarget? = some record.directory

/-- How the check of the references in values ends. -/
inductive Verdict (t : Tables) (fields : List FieldDefinition) (values : Values) :
    Except (Stop ServiceError) Unit → Prop
  | misconfigured {before after : List FieldDefinition} {field : FieldDefinition} {id : RecordId}
      (split : fields = before ++ field :: after) (points : ∀ earlier ∈ before, Points values earlier)
      (held : recordOf? values field = some id) (pointless : field.referenceTarget? = none) :
      Verdict t fields values (.error (.because (.validation (.fieldMisconfigured field.name))))
  | dangling {before after : List FieldDefinition} {field : FieldDefinition} {id : RecordId}
      (points : ∀ field ∈ fields, Points values field) (split : fields = before ++ field :: after)
      (owned : ∀ earlier ∈ before, t.Owned values earlier) (held : recordOf? values field = some id)
      (gone : t.records.get? id = none) :
      Verdict t fields values (.error (.because (.validation (.danglingReference field.name id))))
  | foreign {before after : List FieldDefinition} {field : FieldDefinition} {id : RecordId}
      {target : DirectoryId} {record : Record}
      (points : ∀ field ∈ fields, Points values field) (split : fields = before ++ field :: after)
      (owned : ∀ earlier ∈ before, t.Owned values earlier) (held : recordOf? values field = some id)
      (expected : field.referenceTarget? = some target) (stored : t.records.get? id = some record)
      (different : record.directory ≠ target) :
      Verdict t fields values
        (.error (.because (.validation (.referenceTypeMismatch field.name id record.directory target))))
  | passed (owned : ∀ field ∈ fields, t.Owned values field) : Verdict t fields values (.ok ())

/-- What is wrong with the reference under a field that points somewhere. -/
def fieldFault? (t : Tables) (values : Values) (field : FieldDefinition) : Option ValidationError :=
  (ofField? values field).bind t.faultOf?

theorem Owned.points {field : FieldDefinition} (owned : t.Owned values field) : Points values field := by
  intro id held pointless
  rcases owned id held with ⟨_, _, pointed⟩
  rw [pointless] at pointed
  cases pointed

theorem fieldFault?_eq_none_iff {field : FieldDefinition} (points : Points values field) :
    t.fieldFault? values field = none ↔ t.Owned values field := by
  unfold fieldFault? Owned
  cases held : recordOf? values field with
  | none => simp [ofField?, held]
  | some id =>
      cases pointed : field.referenceTarget? with
      | none => exact absurd pointed (points id held)
      | some target =>
          have reference := ofField?_eq_some_iff.mpr ⟨id, target, held, pointed, rfl⟩
          rw [reference, Option.bind_some, faultOf?]
          cases stored : t.records.get? id with
          | none => simp [stored]
          | some record => simp [stored, eq_comm]

theorem fieldFault?_eq_some_iff {field : FieldDefinition} {error : ValidationError} :
    t.fieldFault? values field = some error ↔
      ∃ id target, recordOf? values field = some id ∧ field.referenceTarget? = some target ∧
        t.faultOf? ⟨field.name, id, target⟩ = some error := by
  rw [fieldFault?, Option.bind_eq_some_iff]
  constructor
  · rintro ⟨reference, collected, faulty⟩
    rcases ofField?_eq_some_iff.mp collected with ⟨id, target, held, pointed, rfl⟩
    exact ⟨id, target, held, pointed, faulty⟩
  · rintro ⟨id, target, held, pointed, faulty⟩
    exact ⟨_, ofField?_eq_some_iff.mpr ⟨id, target, held, pointed, rfl⟩, faulty⟩

/-- The fault of values is that of the first field that points nowhere, or else of the first one whose
reference is bad. -/
theorem referenceFault?_eq (t : Tables) (fields : List FieldDefinition) (values : Values) :
    t.referenceFault? fields values =
      match fields.find? (isPointless values) with
      | some field => some (.fieldMisconfigured field.name)
      | none => fields.findSome? (t.fieldFault? values) := by
  rw [referenceFault?, collect_eq]
  cases fields.find? (isPointless values) with
  | some field => rfl
  | none =>
      dsimp only
      rw [← List.head?_filterMap, List.filterMap_filterMap, List.head?_filterMap]
      rfl

/-- No field is pointless where every field points somewhere. -/
theorem find?_isPointless_eq_none_iff :
    fields.find? (isPointless values) = none ↔ ∀ field ∈ fields, Points values field := by
  rw [List.find?_eq_none]
  refine forall₂_congr fun field _ => ?_
  rw [Bool.not_eq_true, isPointless_eq_false_iff]

/-- Values have no fault where every field has its record. -/
theorem referenceFault?_eq_none_iff :
    t.referenceFault? fields values = none ↔ ∀ field ∈ fields, t.Owned values field := by
  rw [referenceFault?_eq]
  cases found : fields.find? (isPointless values) with
  | some field =>
      constructor
      · intro faultless
        cases faultless
      · intro owned
        have points := (owned field (List.mem_of_find?_eq_some found)).points
        have pointless := List.find?_some found
        rw [isPointless_eq_false_iff.mpr points] at pointless
        cases pointless
  | none =>
      have points := find?_isPointless_eq_none_iff.mp found
      dsimp only
      rw [List.findSome?_eq_none_iff]
      exact forall₂_congr fun field listed => fieldFault?_eq_none_iff (points field listed)

/-- References pass only where each of them names a record of the directory that its field points at. -/
theorem owned_of_referenceFault?_eq_none (faultless : t.referenceFault? fields values = none)
    {field : FieldDefinition} {id : RecordId} (listed : field ∈ fields)
    (held : values.get? field.name = some (.reference id)) :
    ∃ target record, field.referenceTarget? = some target ∧ t.records.get? id = some record ∧
      record.directory = target := by
  rcases referenceFault?_eq_none_iff.mp faultless field listed id (recordOf?_eq_some_iff.mpr held) with
    ⟨record, stored, pointed⟩
  exact ⟨record.directory, record, pointed, stored, rfl⟩

theorem referencesOutcome_eq (t : Tables) (fields : List FieldDefinition) (values : Values) :
    t.referencesOutcome fields values = ending (t.referenceFault? fields values) := by
  unfold referencesOutcome
  cases t.referenceFault? fields values <;> rfl

/-! ## The answer to the check -/

/-- A first field that points nowhere is the verdict, whatever the records. -/
theorem find?_isPointless_eq_some {before after : List FieldDefinition} {field : FieldDefinition}
    {id : RecordId} (split : fields = before ++ field :: after)
    (points : ∀ earlier ∈ before, Points values earlier) (held : recordOf? values field = some id)
    (pointless : field.referenceTarget? = none) : fields.find? (isPointless values) = some field := by
  refine List.find?_eq_some_iff_append.mpr ⟨isPointless_iff.mpr ⟨id, held, pointless⟩, before, after, split, ?_⟩
  intro earlier listed
  rw [isPointless_eq_false_iff.mpr (points earlier listed)]
  rfl

/-- Where every field points somewhere, the first field without its record is the verdict. -/
theorem referenceFault?_of_split (points : ∀ field ∈ fields, Points values field)
    {before after : List FieldDefinition} {field : FieldDefinition} {error : ValidationError}
    (split : fields = before ++ field :: after) (owned : ∀ earlier ∈ before, t.Owned values earlier)
    (faulty : t.fieldFault? values field = some error) : t.referenceFault? fields values = some error := by
  rw [referenceFault?_eq, find?_isPointless_eq_none_iff.mpr points]
  refine List.findSome?_eq_some_iff.mpr ⟨before, field, after, split, faulty, fun earlier listed => ?_⟩
  exact (fieldFault?_eq_none_iff (owned earlier listed).points).mpr (owned earlier listed)

theorem Verdict.outcome_eq {outcome : Except (Stop ServiceError) Unit} (verdict : t.Verdict fields values outcome) :
    outcome = t.referencesOutcome fields values := by
  rw [referencesOutcome_eq]
  cases verdict with
  | misconfigured split points held pointless =>
      rw [referenceFault?_eq, find?_isPointless_eq_some split points held pointless]
      rfl
  | @dangling _ _ field id points split owned held gone =>
      have listed : field ∈ fields := split ▸ List.mem_append_right _ List.mem_cons_self
      rcases Option.ne_none_iff_exists'.mp (points field listed id held) with ⟨target, pointed⟩
      have wrong : t.faultOf? ⟨field.name, id, target⟩ = some (.danglingReference field.name id) := by
        rw [faultOf?, gone]
      have faulty := fieldFault?_eq_some_iff.mpr ⟨id, target, held, pointed, wrong⟩
      rw [referenceFault?_of_split points split owned faulty]
      rfl
  | @foreign _ _ field id target record points split owned held expected stored different =>
      have wrong : t.faultOf? ⟨field.name, id, target⟩ =
          some (.referenceTypeMismatch field.name id record.directory target) := by
        simp only [faultOf?, stored, if_neg different]
      have faulty := fieldFault?_eq_some_iff.mpr ⟨id, target, held, expected, wrong⟩
      rw [referenceFault?_of_split points split owned faulty]
      rfl
  | passed owned =>
      rw [referenceFault?_eq_none_iff.mpr owned]
      rfl

theorem verdict_referencesOutcome (t : Tables) (fields : List FieldDefinition) (values : Values) :
    t.Verdict fields values (t.referencesOutcome fields values) := by
  rw [referencesOutcome_eq, referenceFault?_eq]
  cases found : fields.find? (isPointless values) with
  | some field =>
      rcases List.find?_eq_some_iff_append.mp found with ⟨pointless, before, after, split, points⟩
      rcases isPointless_iff.mp pointless with ⟨id, held, nowhere⟩
      refine .misconfigured split (fun earlier listed => ?_) held nowhere
      exact isPointless_eq_false_iff.mp (by simpa using points earlier listed)
  | none =>
      have points := find?_isPointless_eq_none_iff.mp found
      dsimp only
      cases first : fields.findSome? (t.fieldFault? values) with
      | none =>
          refine .passed fun field listed => ?_
          exact (fieldFault?_eq_none_iff (points field listed)).mp (List.findSome?_eq_none_iff.mp first field listed)
      | some error =>
          rcases List.findSome?_eq_some_iff.mp first with ⟨before, field, after, split, faulty, faultless⟩
          have owned : ∀ earlier ∈ before, t.Owned values earlier := by
            intro earlier listed
            have pointing := points earlier (split ▸ List.mem_append_left _ listed)
            exact (fieldFault?_eq_none_iff pointing).mp (faultless earlier listed)
          rcases fieldFault?_eq_some_iff.mp faulty with ⟨id, target, held, pointed, wrong⟩
          unfold faultOf? at wrong
          split at wrong
          · next gone =>
            cases wrong
            exact .dangling points split owned held gone
          · next record stored =>
            split at wrong
            · cases wrong
            · next different =>
              cases wrong
              exact .foreign points split owned held pointed stored different

end Tables

/-! ## The check with a look-up for each field -/

namespace References

variable {admitted : Tables → StoreCall → Prop} {t : Tables}

theorem meets_checkField (ends : Except (Stop ServiceError) Unit → Tables → Prop)
    (reads : ∀ c, c.isWrite = false → admitted t c) (values : Values) (field : FieldDefinition) :
    Meets admitted ends (checkField values field) t ↔ ends (ending (t.fieldFault? values field)) t := by
  unfold checkField Tables.fieldFault?
  cases ofField? values field with
  | none => exact meets_pure () ends t
  | some reference =>
      have sameFault : reference.fault? (t.recordOwners [reference.record]) = t.faultOf? reference := by
        unfold Reference.fault? Tables.faultOf?
        rw [Tables.get?_recordOwners, if_pos (List.mem_singleton.mpr rfl)]
        cases t.records.get? reference.record <;> rfl
      dsimp only
      rw [meets_bind]
      refine (meets_call_ok (c := .recordOwners [reference.record]) rfl _).trans ?_
      rw [and_iff_right (reads _ rfl), continues_ok, sameFault, Option.bind_some]
      cases t.faultOf? reference with
      | none => exact meets_pure () ends t
      | some error => exact meets_fail _ ends t

theorem meets_checkInTurn (ends : Except (Stop ServiceError) Unit → Tables → Prop)
    (reads : ∀ c, c.isWrite = false → admitted t c) (values : Values) (fields : List FieldDefinition) :
    Meets admitted ends (checkInTurn values fields) t ↔
      ends (ending (fields.findSome? (t.fieldFault? values))) t := by
  induction fields with
  | nil => exact meets_pure () ends t
  | cons field rest inductionHypothesis =>
      rw [checkInTurn, meets_bind, meets_checkField _ reads, List.findSome?_cons]
      cases t.fieldFault? values field with
      | none => exact inductionHypothesis
      | some error => exact continues_error ends _ _ t

theorem meets_checkFieldByField (ends : Except (Stop ServiceError) Unit → Tables → Prop)
    (reads : ∀ c, c.isWrite = false → admitted t c) (fields : List FieldDefinition) (values : Values) :
    Meets admitted ends (checkFieldByField fields values) t ↔ ends (t.referencesOutcome fields values) t := by
  rw [Tables.referencesOutcome_eq, Tables.referenceFault?_eq, checkFieldByField]
  cases fields.find? (isPointless values) with
  | some field => exact meets_fail _ ends t
  | none => exact meets_checkInTurn ends reads values fields

/-- On any tables the check ends with its verdict, as a look-up for each field would have it. -/
theorem checkValues_verdict (t : Tables) (fields : List FieldDefinition) (values : Values) :
    ∃ outcome, (checkValues fields values).run Tables.answer t = (outcome, t) ∧
      (checkFieldByField fields values).run Tables.answer t = (outcome, t) ∧
      ∀ other, t.Verdict fields values other ↔ other = outcome := by
  have reads (c : StoreCall) (_ : c.isWrite = false) : anyCall t c := trivial
  let ends (outcome : Except (Stop ServiceError) Unit) (after : Tables) : Prop :=
    (outcome, after) = (t.referencesOutcome fields values, t)
  refine ⟨t.referencesOutcome fields values, ?_, ?_, fun other => ⟨Tables.Verdict.outcome_eq, ?_⟩⟩
  · exact ((meets_checkValues ends reads fields values).mpr rfl).run
  · exact ((meets_checkFieldByField ends reads fields values).mpr rfl).run
  · rintro rfl
    exact t.verdict_referencesOutcome fields values

end References
end RecordDirectory
