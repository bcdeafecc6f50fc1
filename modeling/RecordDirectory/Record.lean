import RecordDirectory.Value

/-!
Stored records.
-/

namespace RecordDirectory

/-- A record of a directory. -/
structure Record where
  id : RecordId
  directory : DirectoryId
  values : Values
deriving DecidableEq, Inhabited

/-- The text of a field; a record without the field has the empty text. -/
def Record.project (record : Record) (field : String) : String :=
  match record.values.get? field with
  | some value => value.projection
  | none => ""

end RecordDirectory
