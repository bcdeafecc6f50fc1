import RecordDirectory.Service

/-!
Operations: everything that can be asked of a session, as data, and the answers to it.

An operation is a service, a validator on its own, or a bare call of the store.
-/

namespace RecordDirectory

/-- One operation. -/
inductive Operation where
  | createDirectory (code : DirectoryCode) (draft : DirectoryDraft)
  | updateDirectory (id : DirectoryId) (draft : DirectoryDraft)
  | getDirectory (id : DirectoryId)
  | listDirectories
  | createRecord (directory : DirectoryId) (raw : RawValues)
  | updateRecord (id : RecordId) (raw : RawValues)
  | getRecord (id : RecordId)
  | deleteRecord (id : RecordId)
  | listRecords (directory : DirectoryId) (search : Option String) (page : PageRequest)
  | listAllRecords (directory : DirectoryId) (search : Option String)
  /-- Checks the targets of a directory to be created. -/
  | checkCreation (fields : List FieldDefinition)
  /-- Checks the targets of a directory to be changed. -/
  | checkChange (directory : DirectoryId) (fields : List FieldDefinition)
  /-- Checks the references in values. -/
  | checkValues (fields : List FieldDefinition) (values : Values)
  /-- Asks the store without any check. -/
  | store (call : StoreCall)

/-- The answer to an operation. -/
inductive Answer where
  | nothing
  | directory (directory : Directory)
  | summaries (summaries : List DirectorySummary)
  | record (record : Record)
  | records (records : List Record)
  | page (page : Page Record)
  | directoryIds (ids : List DirectoryId)
  | owners (owners : Keyed RecordId DirectoryId)
  | foundDirectory (directory : Option Directory)
  | foundRecord (record : Option Record)
  | changed (changed : Bool)
deriving DecidableEq, Inhabited

def StoreCall.toAnswer : (call : StoreCall) → call.Reply → Answer
  | existingDirectories _, ids => .directoryIds ids
  | recordOwners _, owners => .owners owners
  | getDirectory _, directory => .foundDirectory directory
  | listDirectories, summaries => .summaries summaries
  | createDirectory _ _, directory => .directory directory
  | updateDirectory _, changed => .changed changed
  | getRecord _, record => .foundRecord record
  | createRecord _ _, record => .record record
  | updateRecord _ _, changed => .changed changed
  | deleteRecord _, changed => .changed changed
  | queryRecords _ _, page => .page page

namespace Operation

/-- The task that carries an operation out. -/
def task : Operation → Task Answer
  | createDirectory code draft => Answer.directory <$> Service.createDirectory code draft
  | updateDirectory id draft => Answer.directory <$> Service.updateDirectory id draft
  | getDirectory id => Answer.directory <$> Service.getDirectory id
  | listDirectories => Answer.summaries <$> Service.listDirectories
  | createRecord directory raw => Answer.record <$> Service.createRecord directory raw
  | updateRecord id raw => Answer.record <$> Service.updateRecord id raw
  | getRecord id => Answer.record <$> Service.getRecord id
  | deleteRecord id => (fun _ => Answer.nothing) <$> Service.deleteRecord id
  | listRecords directory search page => Answer.page <$> Service.listRecords directory search page
  | listAllRecords directory search => Answer.records <$> Service.listAllRecords directory search
  | checkCreation fields => (fun _ => Answer.nothing) <$> References.checkCreation fields
  | checkChange directory fields => (fun _ => Answer.nothing) <$> References.checkChange directory fields
  | checkValues fields values => (fun _ => Answer.nothing) <$> References.checkValues fields values
  | store call => call.toAnswer <$> Task.call call

end Operation

end RecordDirectory
