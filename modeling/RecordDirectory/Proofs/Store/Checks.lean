import Mathlib.Data.List.Basic
import RecordDirectory.Proofs.Keyed
import RecordDirectory.Proofs.Store.Contract
import RecordDirectory.References

namespace RecordDirectory

open RecordDirectory.Task

/-!
# The checks of references, as questions about tables

The validators ask in bulk and at most once, and stop early where there is nothing to ask.  Over tables
each of them is a plain function: the missing targets of a list of fields, and the first reference of a
bag of values that names no record or a record of another directory.  The contracts at the end say that
the validators answer with exactly these and change nothing.
-/

namespace References

/-- The record that the value under the name of a field refers to. -/
def recordOf? (values : Values) (field : FieldDefinition) : Option RecordId :=
  match values.get? field.name with
  | some (.reference id) => some id
  | _ => none

/-- The reference under a field, where there is one and the field points somewhere. -/
def ofField? (values : Values) (field : FieldDefinition) : Option Reference :=
  match recordOf? values field, field.referenceTarget? with
  | some id, some target => some ⟨field.name, id, target⟩
  | _, _ => none

/-- A field that holds a reference and points nowhere. -/
def isPointless (values : Values) (field : FieldDefinition) : Bool :=
  (recordOf? values field).isSome && field.referenceTarget?.isNone

variable {values : Values} {fields : List FieldDefinition} {references : List Reference}

theorem recordOf?_eq_some_iff {field : FieldDefinition} {id : RecordId} :
    recordOf? values field = some id ↔ values.get? field.name = some (.reference id) := by
  unfold recordOf?
  cases values.get? field.name with
  | none => simp
  | some value => cases value <;> simp

theorem ofField?_eq_some_iff {field : FieldDefinition} {reference : Reference} :
    ofField? values field = some reference ↔ ∃ id target, recordOf? values field = some id ∧
      field.referenceTarget? = some target ∧ reference = ⟨field.name, id, target⟩ := by
  unfold ofField?
  cases recordOf? values field <;> cases field.referenceTarget? <;> simp [eq_comm]

theorem isPointless_iff {field : FieldDefinition} :
    isPointless values field = true ↔
      ∃ id, recordOf? values field = some id ∧ field.referenceTarget? = none := by
  rw [isPointless, Bool.and_eq_true, Option.isSome_iff_exists, Option.isNone_iff_eq_none]
  simp

/-- What is collected is the reference of every field, unless one of the fields is pointless. -/
theorem collect_eq (values : Values) (fields : List FieldDefinition) :
    collect values fields =
      match fields.find? (isPointless values) with
      | some field => .error (.fieldMisconfigured field.name)
      | none => .ok (fields.filterMap (ofField? values)) := by
  induction fields with
  | nil => rfl
  | cons field rest inductionHypothesis =>
      rw [List.find?_cons]
      simp only [collect]
      split
      · next id held =>
        have named : recordOf? values field = some id := recordOf?_eq_some_iff.mpr held
        cases pointed : field.referenceTarget? with
        | none => simp [isPointless, named, pointed]
        | some target =>
            have collected : ofField? values field = some ⟨field.name, id, target⟩ :=
              ofField?_eq_some_iff.mpr ⟨id, target, named, pointed, rfl⟩
            rw [inductionHypothesis, List.filterMap_cons_some collected]
            simp only [isPointless, named, pointed, Option.isSome_some, Option.isNone_some, Bool.and_false]
            cases rest.find? (isPointless values) <;> rfl
      · next unheld =>
        have unnamed : recordOf? values field = none := by
          rw [Option.eq_none_iff_forall_ne_some]
          exact fun id named => unheld id (recordOf?_eq_some_iff.mp named)
        have uncollected : ofField? values field = none := by simp [ofField?, unnamed]
        rw [inductionHypothesis, List.filterMap_cons_none uncollected]
        simp only [isPointless, unnamed, Option.isSome_none, Bool.false_and]

theorem collect_eq_ok_iff :
    collect values fields = .ok references ↔
      (∀ field ∈ fields, isPointless values field = false) ∧
        references = fields.filterMap (ofField? values) := by
  rw [collect_eq]
  cases found : fields.find? (isPointless values) with
  | some field =>
      constructor
      · intro collected
        cases collected
      · rintro ⟨pointing, rfl⟩
        have pointless := List.find?_some found
        rw [pointing field (List.mem_of_find?_eq_some found)] at pointless
        cases pointless
  | none =>
      have pointing : ∀ field ∈ fields, isPointless values field = false := by
        simpa using List.find?_eq_none.mp found
      rw [and_iff_right pointing]
      dsimp only
      rw [Except.ok.injEq]
      exact eq_comm

/-- A reference under the name of a field is among the collected ones, with the target of the field. -/
theorem mem_of_collect (collected : collect values fields = .ok references) {field : FieldDefinition}
    {id : RecordId} (listed : field ∈ fields) (held : values.get? field.name = some (.reference id)) :
    ∃ target, field.referenceTarget? = some target ∧ ⟨field.name, id, target⟩ ∈ references := by
  rcases collect_eq_ok_iff.mp collected with ⟨pointing, rfl⟩
  have named : recordOf? values field = some id := recordOf?_eq_some_iff.mpr held
  cases pointed : field.referenceTarget? with
  | none =>
      have pointless := isPointless_iff.mpr ⟨id, named, pointed⟩
      rw [pointing field listed] at pointless
      cases pointless
  | some target =>
      have reference := ofField?_eq_some_iff.mpr ⟨id, target, named, pointed, rfl⟩
      exact ⟨target, rfl, List.mem_filterMap.mpr ⟨field, listed, reference⟩⟩

/-- A collected reference is held under the name of its field. -/
theorem held_of_collect (collected : collect values fields = .ok references) {reference : Reference}
    (member : reference ∈ references) :
    values.get? reference.field = some (.reference reference.record) := by
  rcases collect_eq_ok_iff.mp collected with ⟨_, rfl⟩
  rcases List.mem_filterMap.mp member with ⟨field, _, collectedFrom⟩
  rcases ofField?_eq_some_iff.mp collectedFrom with ⟨id, target, named, _, rfl⟩
  exact recordOf?_eq_some_iff.mp named

/-- Collecting stops only at a field that holds a reference and points nowhere. -/
theorem pointless_of_collect {error : ValidationError} (failed : collect values fields = .error error) :
    ∃ field ∈ fields, ∃ id, values.get? field.name = some (.reference id) ∧
      field.referenceTarget? = none := by
  rw [collect_eq] at failed
  split at failed
  · next field found =>
    rcases isPointless_iff.mp (List.find?_some found) with ⟨id, named, pointless⟩
    exact ⟨field, List.mem_of_find?_eq_some found, id, recordOf?_eq_some_iff.mp named, pointless⟩
  · cases failed

end References

theorem FieldDefinition.mem_referenceTargets {fields : List FieldDefinition} {target : DirectoryId} :
    target ∈ referenceTargets fields ↔ ∃ field ∈ fields, field.referenceTarget? = some target := by
  rw [referenceTargets, Keyed.mem_distinct, List.mem_filterMap]

namespace Tables

/-- The targets that are not stored. -/
def missingTargets (t : Tables) (targets : List DirectoryId) : List DirectoryId :=
  targets.filter fun id => !t.directories.contains id

/-- How a check of targets ends. -/
def targetsOutcome (t : Tables) (targets : List DirectoryId) : Except (Stop ServiceError) Unit :=
  if (t.missingTargets targets).isEmpty then .ok ()
  else .error (.because (.validation (.referenceNotFound (t.missingTargets targets))))

/-- How a check of the targets of a directory that is changed ends.  Missing targets are found before a
reference of the directory to itself. -/
def changeOutcome (t : Tables) (directory : DirectoryId) (targets : List DirectoryId) :
    Except (Stop ServiceError) Unit :=
  match t.targetsOutcome targets with
  | .error stop => .error stop
  | .ok () =>
    if directory ∈ targets then .error (.because (.validation (.selfReference directory))) else .ok ()

/-- What is wrong with one reference. -/
def faultOf? (t : Tables) (reference : References.Reference) : Option ValidationError :=
  match t.records.get? reference.record with
  | none => some (.danglingReference reference.field reference.record)
  | some record =>
    if record.directory = reference.expected then none
    else some (.referenceTypeMismatch reference.field reference.record record.directory reference.expected)

/-- What is wrong with the references in values.  A field without a target is found before any reference
is looked up. -/
def referenceFault? (t : Tables) (fields : List FieldDefinition) (values : Values) :
    Option ValidationError :=
  match References.collect values fields with
  | .error error => some error
  | .ok references => references.findSome? t.faultOf?

/-- How a check of the references in values ends. -/
def referencesOutcome (t : Tables) (fields : List FieldDefinition) (values : Values) :
    Except (Stop ServiceError) Unit :=
  match t.referenceFault? fields values with
  | none => .ok ()
  | some error => .error (.because (.validation error))

theorem mem_existingDirectories {t : Tables} {ids : List DirectoryId} {id : DirectoryId} :
    id ∈ t.existingDirectories ids ↔ id ∈ ids ∧ t.directories.contains id = true := by
  rw [existingDirectories, List.mem_filter, Keyed.mem_distinct]

/-- One look-up of all targets finds the same ones missing as a look-up of each. -/
theorem missing_existingDirectories (t : Tables) (targets : List DirectoryId) :
    References.missing targets (t.existingDirectories targets) = t.missingTargets targets := by
  unfold References.missing missingTargets
  apply List.filter_congr
  intro id listed
  have asked : id ∈ t.existingDirectories targets ↔ _ := mem_existingDirectories
  cases stored : t.directories.contains id <;> simp_all

theorem get?_recordOwners (t : Tables) (ids : List RecordId) (id : RecordId) :
    (t.recordOwners ids).get? id =
      if id ∈ ids then (t.records.get? id).map Record.directory else none := by
  have tabulated := Keyed.get?_ofList_filterMap (fun id => (t.records.get? id).map Record.directory)
    (Keyed.distinct ids) id
  simp only [Option.map_map, Keyed.mem_distinct] at tabulated
  exact tabulated

/-- One look-up of all owners finds the same fault as a look-up of each record. -/
theorem findSome?_fault? (t : Tables) (references : List References.Reference) :
    references.findSome?
        (References.Reference.fault?
          (t.recordOwners (Keyed.distinct (references.map References.Reference.record)))) =
      references.findSome? t.faultOf? := by
  rw [← List.head?_filterMap, ← List.head?_filterMap]
  refine congrArg List.head? (List.filterMap_congr fun reference listed => ?_)
  have asked : reference.record ∈ Keyed.distinct (references.map References.Reference.record) :=
    Keyed.mem_distinct.mpr (List.mem_map_of_mem listed)
  unfold References.Reference.fault? faultOf?
  rw [get?_recordOwners, if_pos asked]
  cases t.records.get? reference.record <;> rfl

/-- Targets pass exactly when all of them are stored. -/
theorem missingTargets_eq_nil_iff {t : Tables} {targets : List DirectoryId} :
    t.missingTargets targets = [] ↔ ∀ id ∈ targets, t.directories.contains id = true := by
  simp [missingTargets, List.filter_eq_nil_iff]

theorem targetsOutcome_eq_ok_iff {t : Tables} {targets : List DirectoryId} :
    t.targetsOutcome targets = .ok () ↔ t.missingTargets targets = [] := by
  unfold targetsOutcome
  split <;> simp_all

theorem changeOutcome_eq_ok_iff {t : Tables} {directory : DirectoryId} {targets : List DirectoryId} :
    t.changeOutcome directory targets = .ok () ↔ t.missingTargets targets = [] ∧ directory ∉ targets := by
  rw [← targetsOutcome_eq_ok_iff]
  unfold changeOutcome
  split
  · next stop failed => simp [failed]
  · next passed =>
    rw [passed]
    split <;> simp_all

end Tables

namespace References

variable {admitted : Tables → StoreCall → Prop} {t : Tables}

theorem meets_checkTargets (ends : Except (Stop ServiceError) Unit → Tables → Prop)
    (reads : ∀ c, c.isWrite = false → admitted t c) (targets : List DirectoryId) :
    Meets admitted ends (checkTargets targets) t ↔ ends (t.targetsOutcome targets) t := by
  unfold checkTargets Tables.targetsOutcome
  cases targets with
  | nil => exact meets_pure () ends t
  | cons head rest =>
      rw [if_neg (by simp), meets_bind]
      refine (meets_call_ok (c := .existingDirectories (head :: rest)) rfl _).trans ?_
      rw [and_iff_right (reads _ rfl), continues_ok, Tables.missing_existingDirectories]
      dsimp only
      split
      · exact meets_pure () ends t
      · exact meets_fail _ ends t

theorem meets_checkCreation (ends : Except (Stop ServiceError) Unit → Tables → Prop)
    (reads : ∀ c, c.isWrite = false → admitted t c) (fields : List FieldDefinition) :
    Meets admitted ends (checkCreation fields) t ↔
      ends (t.targetsOutcome (FieldDefinition.referenceTargets fields)) t :=
  meets_checkTargets ends reads _

theorem meets_checkChange (ends : Except (Stop ServiceError) Unit → Tables → Prop)
    (reads : ∀ c, c.isWrite = false → admitted t c) (directory : DirectoryId)
    (fields : List FieldDefinition) :
    Meets admitted ends (checkChange directory fields) t ↔
      ends (t.changeOutcome directory (FieldDefinition.referenceTargets fields)) t := by
  unfold checkChange Tables.changeOutcome
  rw [meets_bind, meets_checkTargets _ reads]
  cases t.targetsOutcome (FieldDefinition.referenceTargets fields) with
  | error stop => exact continues_error ends _ stop t
  | ok passed =>
      rw [continues_ok]
      dsimp only
      split
      · exact meets_fail _ ends t
      · exact meets_pure () ends t

theorem meets_checkValues (ends : Except (Stop ServiceError) Unit → Tables → Prop)
    (reads : ∀ c, c.isWrite = false → admitted t c) (fields : List FieldDefinition) (values : Values) :
    Meets admitted ends (checkValues fields values) t ↔ ends (t.referencesOutcome fields values) t := by
  unfold checkValues Tables.referencesOutcome Tables.referenceFault?
  rw [meets_bind, meets_validated]
  cases collect values fields with
  | error error => exact continues_error ends _ _ t
  | ok references =>
      rw [Except.mapError, continues_ok]
      cases references with
      | nil => exact meets_pure () ends t
      | cons head rest =>
          rw [if_neg (by simp), meets_bind]
          refine (meets_call_ok (c := .recordOwners _) rfl _).trans ?_
          rw [and_iff_right (reads _ rfl), continues_ok, Tables.findSome?_fault?]
          dsimp only
          cases (head :: rest).findSome? t.faultOf? with
          | none => exact meets_pure () ends t
          | some error => exact meets_fail _ ends t

end References
end RecordDirectory
