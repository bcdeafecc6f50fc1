import RecordDirectory.Directory
import RecordDirectory.Page
import RecordDirectory.Predicate

/-!
The calls that a store answers.

Everything that validators and services know of a store goes through these calls, each of which has a
type of reply. Look-ups that validators need in bulk name all their ids in one call; such a list of ids
is taken as a set.
-/

namespace RecordDirectory

/-- One question or command to a store. -/
inductive StoreCall where
  /-- Which of these directories exist. -/
  | existingDirectories (ids : List DirectoryId)
  /-- The directories that own these records. -/
  | recordOwners (ids : List RecordId)
  | getDirectory (id : DirectoryId)
  /-- All directories with their counts, in the order of their ids. -/
  | listDirectories
  /-- Stores a new directory; the store assigns the id, and the code must not be taken. -/
  | createDirectory (code : DirectoryCode) (draft : DirectoryDraft)
  /-- Replaces the name and the fields of a directory, never its code. -/
  | updateDirectory (directory : Directory)
  | getRecord (id : RecordId)
  /-- Stores a new record; the store assigns the id, and the directory must exist. -/
  | createRecord (directory : DirectoryId) (values : Values)
  | updateRecord (id : RecordId) (values : Values)
  | deleteRecord (id : RecordId)
  /-- The records that a predicate matches: one page of them, or all in ascending order. -/
  | queryRecords (predicate : Predicate) (page : Option PageRequest)
deriving Inhabited

namespace StoreCall

/-- The type of the reply to a call. The ids of existing directories come in ascending order, and an
update or deletion tells whether there was something to change. -/
@[reducible]
def Reply : StoreCall → Type
  | existingDirectories _ => List DirectoryId
  | recordOwners _ => Keyed RecordId DirectoryId
  | getDirectory _ => Option Directory
  | listDirectories => List DirectorySummary
  | createDirectory _ _ => Directory
  | updateDirectory _ => Bool
  | getRecord _ => Option Record
  | createRecord _ _ => Record
  | updateRecord _ _ => Bool
  | deleteRecord _ => Bool
  | queryRecords _ _ => Page Record

def isWrite : StoreCall → Bool
  | createDirectory _ _ | updateDirectory _ | createRecord _ _ | updateRecord _ _ | deleteRecord _ => true
  | existingDirectories _ | recordOwners _ | getDirectory _ | listDirectories | getRecord _
  | queryRecords _ _ => false

end StoreCall

end RecordDirectory
