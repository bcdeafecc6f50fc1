import RecordDirectory.Sql.Condition
import RecordDirectory.Sql.Row
import RecordDirectory.Store.Task

/-!
The store that keeps its tables in a database.

Every call has a plan of one statement, except that a page of records takes two: its rows, and the
number of all matching rows under the same condition.
-/

namespace RecordDirectory
namespace Sql

def directoryColumns : List String := ["id", "code", "name", "fields"]

def recordColumns : List String := ["id", "directory_id", "field_values"]

/-- The row with the id that a placeholder names. -/
def idIs (n : Nat) : Expr :=
  .binary .equal (.column "id") (.placeholder n)

/-- The rows with the ids that a placeholder lists. -/
def idIsAny (n : Nat) : Expr :=
  .binary .equal (.column "id") (.call "ANY" [.placeholder n])

/-- The column that records when a row was changed. -/
def touched : String × Expr :=
  ("updated_at", .call "NOW" [])

def selectRows (table : Table) (columns : List String) (condition : Expr) : Statement :=
  .select (columns.map .column) table condition none none

/-- The greatest count that a window can name. -/
def greatestCount : Nat := signedBound - 1

/-- A count for a window, cut down to the greatest one. -/
def windowCount (n : Nat) : Parameter :=
  .integer (min n greatestCount : Nat)

/-- The rows that a predicate matches, in the order and window of a page. -/
def recordsQuery (predicate : Predicate) (page : Option PageRequest) : Query :=
  let parameters := predicate.parameters
  let results := recordColumns.map .column
  let condition := predicate.condition 1
  match page with
  | none => ⟨.select results .records condition (some .ascending) none, parameters⟩
  | some page =>
    let window : Window := ⟨parameters.length + 1, parameters.length + 2⟩
    ⟨.select results .records condition (some page.sort) (some window),
      parameters ++ [windowCount page.limit, windowCount page.offset]⟩

/-- The number of rows that a predicate matches. -/
def countQuery (predicate : Predicate) : Query :=
  ⟨.select [.call "COUNT" [.column "*"]] .records (predicate.condition 1) none none, predicate.parameters⟩

/-- The page that all matching records make up. -/
def wholePage (records : List Record) : Page Record where
  items := records
  offset := 0
  limit := records.length
  total := records.length

/-- The plan of a query for records. A page keeps the offset and the limit that were asked for. -/
def queryPlan (predicate : Predicate) : Option PageRequest → Plan (Page Record)
  | none => .single (recordsQuery predicate none) fun result => (result.all Row.record).map wholePage
  | some page =>
    .send (recordsQuery predicate (some page)) fun rows =>
      match rows.all Row.record with
      | .error error => .done (.error error)
      | .ok items =>
        .single (countQuery predicate) fun result =>
          (result.one (·.integerAt 0)).map fun total =>
            { items := items, offset := page.offset, limit := page.limit, total := total.toNat }

/-- All directories with the number of their records, which is zero where there is no group of records. -/
def directoryCounts : Join where
  results :=
    [.column "d.id", .column "d.code", .column "d.name", .column "d.fields",
      .call "COALESCE" [.column "c.record_count", .number 0]]
  last := "record_count"
  table := .directories
  rowName := "d"
  groups := ⟨.records, "directory_id", "record_count"⟩
  groupName := "c"
  condition := .binary .equal (.column "c.directory_id") (.column "d.id")

def plan : (call : StoreCall) → Plan call.Reply
  | .existingDirectories ids =>
    .single
      ⟨selectRows .directories ["id"] (idIsAny 1),
        [.integers ((Keyed.distinct ids).map DirectoryId.number)]⟩
      fun result => (result.all (·.integerAt 0)).map fun found => Keyed.distinct (found.map DirectoryId.mk)
  | .recordOwners ids =>
    .single
      ⟨selectRows .records ["id", "directory_id"] (idIsAny 1),
        [.integers ((Keyed.distinct ids).map RecordId.number)]⟩
      fun result => (result.all Row.owner).map Keyed.ofList
  | .getDirectory id =>
    .single ⟨selectRows .directories directoryColumns (idIs 1), [.integer id.number]⟩
      fun result => result.first? Row.directory
  | .listDirectories => .single ⟨.selectJoined directoryCounts, []⟩ fun result => result.all Row.summary
  | .createDirectory code draft =>
    .single
      ⟨.insert .directories ["code", "name", "fields"] [.placeholder 1, .placeholder 2, .placeholder 3]
          directoryColumns,
        [.code code, .text draft.name, .json (FieldDefinition.listToJson draft.fields)]⟩
      fun result => result.one Row.directory
  | .updateDirectory directory =>
    .single
      ⟨.update .directories [("name", .placeholder 2), ("fields", .placeholder 3), touched] (idIs 1),
        [.integer directory.id.number, .text directory.name,
          .json (FieldDefinition.listToJson directory.fields)]⟩
      ResultSet.changed
  | .getRecord id =>
    .single ⟨selectRows .records recordColumns (idIs 1), [.integer id.number]⟩
      fun result => result.first? Row.record
  | .createRecord directory values =>
    .single
      ⟨.insert .records ["directory_id", "field_values"] [.placeholder 1, .placeholder 2] recordColumns,
        [.integer directory.number, .json values.toJson]⟩
      fun result => result.one Row.record
  | .updateRecord id values =>
    .single
      ⟨.update .records [("field_values", .placeholder 2), touched] (idIs 1),
        [.integer id.number, .json values.toJson]⟩
      ResultSet.changed
  | .deleteRecord id =>
    .single ⟨.delete .records (idIs 1), [.integer id.number]⟩ ResultSet.changed
  | .queryRecords predicate page => queryPlan predicate page

/-- The plan that makes all writes of a transaction last. -/
def commitPlan : Plan Unit :=
  .single ⟨.commit, []⟩ fun _ => .ok ()

/-- The answers of a database to all calls. -/
def answer {σ : Type} (database : Database σ) : Task.Answering σ :=
  fun call s => (plan call).run database s

end Sql
end RecordDirectory
