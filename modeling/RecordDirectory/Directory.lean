import RecordDirectory.DirectoryCode
import RecordDirectory.Field

/-!
Directories: record shapes that are defined while the program runs.

A draft is the part of a directory that callers may set. A summary adds the counts that listings show.
-/

namespace RecordDirectory

/-- A stored directory. -/
structure Directory where
  id : DirectoryId
  code : DirectoryCode
  name : String
  fields : List FieldDefinition
deriving DecidableEq, Inhabited

/-- What a caller sends to create a directory or to change one. -/
structure DirectoryDraft where
  name : String
  fields : List FieldDefinition
deriving DecidableEq, Inhabited

/-- A directory with the number of its fields and of its records. -/
structure DirectorySummary where
  directory : Directory
  fieldCount : Nat
  recordCount : Nat
deriving DecidableEq, Inhabited

/-- The summary of a directory that has so many records. -/
def Directory.summary (directory : Directory) (recordCount : Nat) : DirectorySummary where
  directory := directory
  fieldCount := directory.fields.length
  recordCount := recordCount

end RecordDirectory
