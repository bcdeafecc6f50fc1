import RecordDirectory.Store.Task

/-!
References between directories and between records.

The reference fields of a directory must point at directories that exist, and not at the directory
itself. The references of a record must name records of the directories that its fields point at. Each
check asks the store at most once, and not at all where there is nothing to look up.
-/

namespace RecordDirectory
namespace References

/-- The targets that a store does not know. -/
def missing (targets existing : List DirectoryId) : List DirectoryId :=
  targets.filter fun id => id ∉ existing

/-- Checks that directories exist; the error names all that do not. -/
def checkTargets (targets : List DirectoryId) : Task Unit :=
  if targets.isEmpty then pure ()
  else do
    let existing ← Task.call (.existingDirectories targets)
    let missing := missing targets existing
    if missing.isEmpty then pure () else Task.fail (.validation (.referenceNotFound missing))

/-- Checks the targets of a directory that is about to be created. -/
def checkCreation (fields : List FieldDefinition) : Task Unit :=
  checkTargets (FieldDefinition.referenceTargets fields)

/-- Checks the targets of a directory that is about to be changed. Targets that do not exist are
reported before a reference of the directory to itself. -/
def checkChange (directory : DirectoryId) (fields : List FieldDefinition) : Task Unit := do
  let targets := FieldDefinition.referenceTargets fields
  checkTargets targets
  if directory ∈ targets then Task.fail (.validation (.selfReference directory)) else pure ()

/-- A reference that a record holds: the field, the record it names, and the directory that this must
belong to. -/
structure Reference where
  field : String
  record : RecordId
  expected : DirectoryId
deriving DecidableEq

/-- The references in a bag of values, in the order of the fields. A field whose value is a reference
but that has no target is broken. -/
def collect (values : Values) : List FieldDefinition → Except ValidationError (List Reference)
  | [] => .ok []
  | field :: rest =>
    match values.get? field.name with
    | some (.reference record) =>
      match field.referenceTarget? with
      | none => .error (.fieldMisconfigured field.name)
      | some expected =>
        match collect values rest with
        | .ok references => .ok (⟨field.name, record, expected⟩ :: references)
        | .error error => .error error
    | _ => collect values rest

/-- What is wrong with a reference, given the owners of records. -/
def Reference.fault? (owners : Keyed RecordId DirectoryId) (reference : Reference) :
    Option ValidationError :=
  match owners.get? reference.record with
  | none => some (.danglingReference reference.field reference.record)
  | some actual =>
    if actual = reference.expected then none
    else some (.referenceTypeMismatch reference.field reference.record actual reference.expected)

/-- Checks the references in typed values; the first bad one in the order of the fields is the error. -/
def checkValues (fields : List FieldDefinition) (values : Values) : Task Unit := do
  let references ← Task.validated (collect values fields)
  if references.isEmpty then pure ()
  else
    let owners ← Task.call (.recordOwners (Keyed.distinct (references.map Reference.record)))
    match references.findSome? (Reference.fault? owners) with
    | none => pure ()
    | some error => Task.fail (.validation error)

end References
end RecordDirectory
