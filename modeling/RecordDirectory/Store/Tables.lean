import RecordDirectory.Store.Task

/-!
The store that keeps its tables in memory.

Both tables are keyed by id, and each has a counter of the ids it has handed out. Ids start at one and
are never handed out twice, also when a record is deleted; a refused creation does not count.

An id is a signed word of 64 bits, but the counters here have no bound. Runs with 2^63 creations of
directories, or of records, are outside of the model: it does not say what becomes of a counter that cannot
go on. Where it matters that ids fit, theorems ask for a counter below `signedBound`.
-/

namespace RecordDirectory

/-- The stored directories and records. -/
structure Tables where
  directories : Keyed DirectoryId Directory
  records : Keyed RecordId Record
  lastDirectoryId : Int
  lastRecordId : Int
deriving DecidableEq

namespace Tables

/-- No directories, no records, and no id handed out. -/
def empty : Tables where
  directories := .empty
  records := .empty
  lastDirectoryId := 0
  lastRecordId := 0

instance : Inhabited Tables := ⟨empty⟩

/-- Those of the ids that name a directory, ascending. -/
def existingDirectories (t : Tables) (ids : List DirectoryId) : List DirectoryId :=
  (Keyed.distinct ids).filter t.directories.contains

/-- The owners of those of the ids that name a record. -/
def recordOwners (t : Tables) (ids : List RecordId) : Keyed RecordId DirectoryId :=
  Keyed.ofList ((Keyed.distinct ids).filterMap fun id =>
    (t.records.get? id).map fun record => (id, record.directory))

def recordCount (t : Tables) (id : DirectoryId) : Nat :=
  t.records.values.countP (·.directory == id)

/-- All directories with their counts. The records of all directories are counted in one pass, in which
a directory without records does not occur. -/
def summaries (t : Tables) : List DirectorySummary :=
  let counts := Keyed.tally (t.records.values.map Record.directory)
  t.directories.values.map fun directory => directory.summary ((counts.get? directory.id).getD 0)

def codeTaken (t : Tables) (code : DirectoryCode) : Bool :=
  t.directories.values.any (·.code == code)

def nextDirectory (t : Tables) (code : DirectoryCode) (draft : DirectoryDraft) : Directory where
  id := ⟨t.lastDirectoryId + 1⟩
  code := code
  name := draft.name
  fields := draft.fields

/-- Stores a new directory, unless its code is taken. -/
def createDirectory (t : Tables) (code : DirectoryCode) (draft : DirectoryDraft) :
    Except StoreError Directory × Tables :=
  if t.codeTaken code then (.error .alreadyExists, t)
  else
    let directory := t.nextDirectory code draft
    (.ok directory,
      { t with
        directories := t.directories.insert directory.id directory
        lastDirectoryId := t.lastDirectoryId + 1 })

/-- Replaces the name and the fields of a stored directory. -/
def updateDirectory (t : Tables) (directory : Directory) : Bool × Tables :=
  match t.directories.get? directory.id with
  | some stored =>
    let changed := { stored with name := directory.name, fields := directory.fields }
    (true, { t with directories := t.directories.insert directory.id changed })
  | none => (false, t)

def nextRecord (t : Tables) (directory : DirectoryId) (values : Values) : Record where
  id := ⟨t.lastRecordId + 1⟩
  directory := directory
  values := values

/-- Stores a new record, if its directory exists. -/
def createRecord (t : Tables) (directory : DirectoryId) (values : Values) :
    Except StoreError Record × Tables :=
  if t.directories.contains directory then
    let record := t.nextRecord directory values
    (.ok record,
      { t with records := t.records.insert record.id record, lastRecordId := t.lastRecordId + 1 })
  else
    (.error .notFound, t)

/-- Replaces the values of a stored record. -/
def updateRecord (t : Tables) (id : RecordId) (values : Values) : Bool × Tables :=
  match t.records.get? id with
  | some stored => (true, { t with records := t.records.insert id { stored with values := values } })
  | none => (false, t)

def deleteRecord (t : Tables) (id : RecordId) : Bool × Tables :=
  if t.records.contains id then (true, { t with records := t.records.erase id }) else (false, t)

/-- The records that a predicate matches, in ascending order. -/
def matching (t : Tables) (predicate : Predicate) : List Record :=
  t.records.values.filter fun record => predicate.holds record

/-- The matching records: all of them on one page, or those in the window. -/
def query (t : Tables) (predicate : Predicate) : Option PageRequest → Page Record
  | none =>
    let found := t.matching predicate
    { items := found, offset := 0, limit := found.length, total := found.length }
  | some page =>
    let found := t.matching predicate
    let sorted := match page.sort with
      | .ascending => found
      | .descending => found.reverse
    { items := (sorted.drop page.offset).take page.limit
      offset := page.offset
      limit := page.limit
      total := found.length }

/-- The answers of the tables to all calls. -/
def answer : Task.Answering Tables
  | .existingDirectories ids, t => (.ok (t.existingDirectories ids), t)
  | .recordOwners ids, t => (.ok (t.recordOwners ids), t)
  | .getDirectory id, t => (.ok (t.directories.get? id), t)
  | .listDirectories, t => (.ok t.summaries, t)
  | .createDirectory code draft, t => t.createDirectory code draft
  | .updateDirectory directory, t => let (changed, t) := t.updateDirectory directory; (.ok changed, t)
  | .getRecord id, t => (.ok (t.records.get? id), t)
  | .createRecord directory values, t => t.createRecord directory values
  | .updateRecord id values, t => let (changed, t) := t.updateRecord id values; (.ok changed, t)
  | .deleteRecord id, t => let (changed, t) := t.deleteRecord id; (.ok changed, t)
  | .queryRecords predicate page, t => (.ok (t.query predicate page), t)

/-- A call that is not a write leaves the tables as they are. -/
theorem answer_of_not_isWrite {c : StoreCall} (h : c.isWrite = false) (t : Tables) :
    (answer c t).2 = t := by
  cases c <;> first | rfl | cases h

end Tables

end RecordDirectory
