import RecordDirectory.Identity
import RecordDirectory.Keyed

/-!
Field definitions: the named, typed slots of a directory.

Only a reference field points anywhere. A definition in a store is not trusted to carry a target
exactly when it is a reference, so `referenceTarget?` looks at both.
-/

namespace RecordDirectory

/-- What the values of a field are. -/
inductive FieldType where
  /-- Text that is not blank. -/
  | text
  /-- An exact decimal. -/
  | number
  /-- The id of a record in the field's target directory. -/
  | reference
deriving DecidableEq, Inhabited

namespace FieldType

def name : FieldType → String
  | .text => "TEXT"
  | .number => "NUMBER"
  | .reference => "REFERENCE"

/-- The field type of a name; two of the types have an older name as well. -/
def ofName? (name : String) : Option FieldType :=
  if name = "TEXT" ∨ name = "STRING" then some .text
  else if name = "NUMBER" then some .number
  else if name = "REFERENCE" ∨ name = "DIRECTORY_REFERENCE" then some .reference
  else none

@[simp]
theorem ofName?_name (t : FieldType) : ofName? t.name = some t := by
  cases t <;> decide

end FieldType

/-- One slot of a directory. -/
structure FieldDefinition where
  name : String
  type : FieldType
  target : Option DirectoryId
deriving DecidableEq, Inhabited

namespace FieldDefinition

/-- The directory that a reference field points at. -/
def referenceTarget? (field : FieldDefinition) : Option DirectoryId :=
  match field.type with
  | .reference => field.target
  | .text | .number => none

/-- The distinct directories that fields point at, ascending. -/
def referenceTargets (fields : List FieldDefinition) : List DirectoryId :=
  Keyed.distinct (fields.filterMap referenceTarget?)

end FieldDefinition

end RecordDirectory
