import RecordDirectory.Directory.Shape
import RecordDirectory.Predicate.Search
import RecordDirectory.References
import RecordDirectory.Typing

/-!
The services on directories and records.

Every service looks up what it needs, checks all of its input, and only then writes, once; a service
that fails has written nothing. All of them are tasks, so they hold of every store.
-/

namespace RecordDirectory
namespace Service

def getDirectory (id : DirectoryId) : Task Directory := do
  Task.found (.directoryNotFound id) (← Task.call (.getDirectory id))

def getRecord (id : RecordId) : Task Record := do
  Task.found (.recordNotFound id) (← Task.call (.getRecord id))

/-- Lists all directories with their counts. -/
def listDirectories : Task (List DirectorySummary) :=
  Task.call .listDirectories

/-- Creates a directory with a code that was drawn for it. -/
def createDirectory (code : DirectoryCode) (draft : DirectoryDraft) : Task Directory := do
  let draft ← Task.validated draft.checkShape
  References.checkCreation draft.fields
  Task.call (.createDirectory code draft)

/-- Replaces the name and the fields of a directory. Its id and its code are kept, and so are the values
of its records. -/
def updateDirectory (id : DirectoryId) (draft : DirectoryDraft) : Task Directory := do
  let directory ← getDirectory id
  let draft ← Task.validated draft.checkShape
  References.checkChange id draft.fields
  let changed := { directory with name := draft.name, fields := draft.fields }
  if ← Task.call (.updateDirectory changed) then pure changed
  else Task.fail (.directoryNotFound id)

/-- Types input under the fields of a directory and checks its references. -/
def checkedValues (directory : Directory) (raw : RawValues) : Task Values := do
  let values ← Task.settled (Typing.typeValues directory.fields raw)
  References.checkValues directory.fields values
  pure values

def createRecord (directory : DirectoryId) (raw : RawValues) : Task Record := do
  let directory ← getDirectory directory
  let values ← checkedValues directory raw
  Task.call (.createRecord directory.id values)

/-- Replaces the values of a record, typed under the present fields of its directory. -/
def updateRecord (id : RecordId) (raw : RawValues) : Task Record := do
  let record ← getRecord id
  let directory ← getDirectory record.directory
  let values ← checkedValues directory raw
  if ← Task.call (.updateRecord id values) then pure { record with values := values }
  else Task.fail (.recordNotFound id)

/-- Deletes a record; references to it are left as they are. -/
def deleteRecord (id : RecordId) : Task Unit := do
  if ← Task.call (.deleteRecord id) then pure () else Task.fail (.recordNotFound id)

/-- One page of the records of a directory that a search finds. -/
def listRecords (directory : DirectoryId) (search : Option String) (page : PageRequest) :
    Task (Page Record) := do
  let directory ← getDirectory directory
  Task.call (.queryRecords (.inDirectory directory.id search directory.fields) (some page))

/-- All records of a directory that a search finds, in ascending order. -/
def listAllRecords (directory : DirectoryId) (search : Option String) : Task (List Record) := do
  let directory ← getDirectory directory
  let page ← Task.call (.queryRecords (.inDirectory directory.id search directory.fields) none)
  pure page.items

end Service
end RecordDirectory
