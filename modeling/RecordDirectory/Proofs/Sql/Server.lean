import Mathlib.Data.List.Dedup
import RecordDirectory.Proofs.Sql.Evaluation
import RecordDirectory.Session
import RecordDirectory.Sql.Store

namespace RecordDirectory
namespace Sql

/-!
# A reference database

A database that has the two tables and gives every statement its meaning on them: a condition selects the
rows it is true of, an order sorts them by id, a window cuts them, and results are computed row by row.  A
join puts each row together with the groups that its condition is true of, and with NULL where there are none.
Ids come from sequences, which do not go back when a transaction does, and a statement that fails aborts
the transaction that it stands in.

Where SQL leaves something open, so does the reference.  Rows without an order come in any order at all,
which may differ from one moment to the next (`Arrangement`).  Times are counted but nowhere looked at.

The reference is asked with statements.  Asked with their texts, it does the same (`Server.stepsOver_overText`).

Two things are left out, since no statement of the store needs them: assignments to keys, and deletions
of directories.  Both are refused.
-/

structure DirectoryRow where
  id : Int
  code : DirectoryCode
  name : String
  fields : Json
  createdAt : Nat
  updatedAt : Nat

structure RecordRow where
  id : Int
  directoryId : Int
  fieldValues : Json
  createdAt : Nat
  updatedAt : Nat

/-- Rows with columns that are read and set by name.  An insertion starts from a blank row, in which the
columns without a default have to be set. -/
class Columns (ρ : Type) where
  id : ρ → Int
  column? : ρ → String → Option Datum
  set? : ρ → String → Datum → Option ρ
  blank : Int → Nat → ρ
  withoutDefault : List String

instance : Columns DirectoryRow where
  id := DirectoryRow.id
  column? row name :=
    if name = "id" then some (.integer row.id)
    else if name = "code" then some (.code row.code)
    else if name = "name" then some (.text row.name)
    else if name = "fields" then some (.json row.fields)
    else if name = "created_at" then some (.moment row.createdAt)
    else if name = "updated_at" then some (.moment row.updatedAt)
    else none
  set? row name value :=
    match name, value with
    | "code", .code code => some { row with code := code }
    | "name", .text text => some { row with name := text }
    | "fields", .json fields => some { row with fields := fields }
    | "updated_at", .moment n => some { row with updatedAt := n }
    | _, _ => none
  blank id now := ⟨id, default, "", .array [], now, now⟩
  withoutDefault := ["code", "name"]

instance : Columns RecordRow where
  id := RecordRow.id
  column? row name :=
    if name = "id" then some (.integer row.id)
    else if name = "directory_id" then some (.integer row.directoryId)
    else if name = "field_values" then some (.json row.fieldValues)
    else if name = "created_at" then some (.moment row.createdAt)
    else if name = "updated_at" then some (.moment row.updatedAt)
    else none
  set? row name value :=
    match name, value with
    | "directory_id", .integer id => some { row with directoryId := id }
    | "field_values", .json values => some { row with fieldValues := values }
    | "updated_at", .moment n => some { row with updatedAt := n }
    | _, _ => none
  blank id now := ⟨id, 0, .object [], now, now⟩
  withoutDefault := ["directory_id"]

/-- The elements that a test is true of, if it has a result for all of them. -/
def filterBy? {α : Type} (holds? : α → Option Bool) : List α → Option (List α)
  | [] => some []
  | a :: rest => do
    let holds ← holds? a
    let later ← filterBy? holds? rest
    some (if holds then a :: later else later)

/-- Whether a condition is true; unknown is not true. -/
def Environment.holds? (environment : Environment) (condition : Expr) : Option Bool :=
  match condition.eval? environment with
  | some (.truth b) => some b
  | some .null => some false
  | _ => none

/-- A value as the content of a column. -/
def Datum.cell? : Datum → Option Cell
  | .null => some .null
  | .integer n => some (.integer n)
  | .text s => some (.text s)
  | .json value => some (.json value)
  | .code c => some (.code c)
  | .truth _ | .integers _ | .moment _ => none

def Environment.cells? (environment : Environment) (results : List Expr) : Option (List Cell) := do
  let values ← Expr.evalAll? environment results
  values.mapM Datum.cell?

/-- What is common to all rows that a statement looks at. -/
structure Setting where
  now : Nat
  parameters : List Parameter

namespace Setting

/-- The environment of an expression on a row.  Case is folded as the rest of the library folds it. -/
def environment (setting : Setting) (column? : String → Option Datum) : Environment where
  lower := Text.foldCase
  now := setting.now
  column? := column?
  parameters := setting.parameters

variable {ρ : Type} [Columns ρ]

def holds? (setting : Setting) (condition : Expr) (row : ρ) : Option Bool :=
  (setting.environment (Columns.column? row)).holds? condition

def filter? (setting : Setting) (condition : Expr) (rows : List ρ) : Option (List ρ) :=
  filterBy? (setting.holds? condition) rows

def count? (setting : Setting) (n : Nat) : Option Nat :=
  match (setting.environment fun _ => none).placeholder? n with
  | some (.integer k) => if 0 ≤ k then some k.toNat else none
  | _ => none

def window? (setting : Setting) (window : Option Window) (rows : List ρ) : Option (List ρ) :=
  match window with
  | none => some rows
  | some window => do
    let limit ← setting.count? window.limit
    let offset ← setting.count? window.offset
    some ((rows.drop offset).take limit)

end Setting

/-- Whether an expression counts rows.  Brackets around it make no difference. -/
def Expr.isCount (expr : Expr) : Bool :=
  match expr.nested with
  | .call function [.column name] => function == "count" && name == "*"
  | _ => false

/-- The name of a result, which is that of a column, whatever brackets stand around it. -/
def Expr.columnName (expr : Expr) : String :=
  match expr.nested with
  | .column name => name
  | _ => "?column?"

def sorted {ρ : Type} (idOf : ρ → Int) (order : SortOrder) (rows : List ρ) : List ρ :=
  rows.mergeSort fun a b =>
    match order with
    | .ascending => decide (idOf a ≤ idOf b)
    | .descending => decide (idOf b ≤ idOf a)

/-- An order of the rows of results that are not sorted, which depends on the moment. -/
structure Arrangement where
  arrange : {ρ : Type} → Nat → List ρ → List ρ
  perm : ∀ {ρ : Type} (now : Nat) (rows : List ρ), (arrange now rows).Perm rows

/-- The newest row first. -/
def Arrangement.newestFirst : Arrangement where
  arrange _ rows := rows.reverse
  perm _ rows := rows.reverse_perm

/-- The rows of results, sorted or arranged. -/
def Arrangement.ordered {ρ : Type} (arrangement : Arrangement) (idOf : ρ → Int) (now : Nat)
    (order : Option SortOrder) (rows : List ρ) : List ρ :=
  match order with
  | none => arrangement.arrange now rows
  | some order => sorted idOf order rows

namespace Setting

variable {ρ : Type} [Columns ρ]

def cells? (setting : Setting) (results : List Expr) (row : ρ) : Option (List Cell) :=
  (setting.environment (Columns.column? row)).cells? results

/-- The result of a selection, which either counts the rows or shows them. -/
def select? (setting : Setting) (arrangement : Arrangement) (rows : List ρ) (results : List Expr)
    (condition : Expr) (order : Option SortOrder) (window : Option Window) : Option ResultSet := do
  let found ← setting.filter? condition rows
  if results.any Expr.isCount then some ⟨["count"], [[.integer found.length]], 1⟩
  else
    let shown ← setting.window? window (arrangement.ordered Columns.id setting.now order found)
    let cells ← shown.mapM (setting.cells? results)
    some ⟨results.map Expr.columnName, cells, cells.length⟩

def assign? : ρ → List (String × Datum) → Option ρ
  | row, [] => some row
  | row, (column, value) :: rest => do assign? (← Columns.set? row column value) rest

def insert? (setting : Setting) (id : Int) (columns : List String) (values : List Expr) : Option ρ :=
  if (Columns.withoutDefault ρ).all columns.contains then do
    let data ← Expr.evalAll? (setting.environment fun _ => none) values
    assign? (Columns.blank id setting.now) (columns.zip data)
  else
    none

/-- The row that an update puts in the place of another. -/
def change? (setting : Setting) (assignments : List (String × Expr)) (row : ρ) : Option ρ := do
  let data ← Expr.evalAll? (setting.environment (Columns.column? row)) (assignments.map Prod.snd)
  assign? row ((assignments.map Prod.fst).zip data)

/-- The rows after an update, and how many of them were updated. -/
def update? (setting : Setting) (assignments : List (String × Expr)) (condition : Expr) :
    List ρ → Option (List ρ × Nat)
  | [] => some ([], 0)
  | row :: rest => do
    let holds ← setting.holds? condition row
    let (later, affected) ← setting.update? assignments condition rest
    if holds then some ((← setting.change? assignments row) :: later, affected + 1)
    else some (row :: later, affected)

/-- The rows after a deletion, and how many were deleted. -/
def delete? (setting : Setting) (condition : Expr) : List ρ → Option (List ρ × Nat)
  | [] => some ([], 0)
  | row :: rest => do
    let holds ← setting.holds? condition row
    let (later, affected) ← setting.delete? condition rest
    some (if holds then (later, affected + 1) else (row :: later, affected))

end Setting

structure Content where
  directories : List DirectoryRow
  records : List RecordRow

/-! ## Joins -/

/-- A value of a column with the number of rows that have it. -/
structure Group where
  value : Datum
  count : Nat

namespace Content

def column? (content : Content) (name : String) : Table → Option (List Datum)
  | .directories => content.directories.mapM fun row => Columns.column? row name
  | .records => content.records.mapM fun row => Columns.column? row name

/-- The groups of a table, one for each value of a column. -/
def groups? (content : Content) (groups : Groups) : Option (List Group) := do
  let values ← content.column? groups.column groups.table
  some (values.dedup.map fun value => ⟨value, values.count value⟩)

end Content

/-- The columns of a group; those of none are NULL. -/
def Groups.column? (groups : Groups) (group : Option Group) (name : String) : Option Datum :=
  if name = groups.column then some (group.elim .null Group.value)
  else if name = groups.count then some (group.elim .null fun group => .integer group.count)
  else none

/-- The name of a table, and of a column behind the point. -/
def splitName (name : String) : String × String :=
  let behind := name.toList.dropWhile (· ≠ '.')
  (String.ofList (name.toList.takeWhile (· ≠ '.')), String.ofList (behind.drop 1))

namespace Join

variable {ρ : Type} [Columns ρ]

/-- The columns of a row and a group, by their full names. -/
def column? (join : Join) (row : ρ) (group : Option Group) (name : String) : Option Datum :=
  let (table, column) := splitName name
  if table = join.rowName then Columns.column? row column
  else if table = join.groupName then join.groups.column? group column
  else none

/-- The names of the results, which are those of their columns except for the last one. -/
def names (join : Join) : List String :=
  (join.results.dropLast.map fun result => (splitName result.columnName).2) ++ [join.last]

end Join

namespace Setting

variable {ρ : Type} [Columns ρ]

/-- A row with each of its groups, or with none. -/
def join? (setting : Setting) (join : Join) (groups : List Group) (row : ρ) :
    Option (List (ρ × Option Group)) := do
  let holds? (group : Group) := (setting.environment (join.column? row (some group))).holds? join.condition
  match ← filterBy? holds? groups with
  | [] => some [(row, none)]
  | found => some (found.map fun group => (row, some group))

/-- The result of a join.  Which of several groups of one row comes first is left open. -/
def selectJoined? (setting : Setting) (arrangement : Arrangement) (rows : List ρ) (join : Join)
    (groups : List Group) : Option ResultSet := do
  let joined ← rows.mapM (setting.join? join groups)
  let arranged := arrangement.arrange setting.now joined.flatten
  let cells ← (sorted (fun pair => Columns.id pair.1) .ascending arranged).mapM fun (row, group) =>
    (setting.environment (join.column? row group)).cells? join.results
  some ⟨join.names, cells, cells.length⟩

end Setting

structure Server where
  committed : Content
  working : Content
  lastDirectoryId : Int
  lastRecordId : Int
  now : Nat
  aborted : Bool

/-- The failure of a statement that has no meaning. -/
def Failure.malformed : Failure := ⟨"42601", "syntax error"⟩

/-- The failure of a row with a value that must be unique and is taken. -/
def Failure.taken : Failure := ⟨"23505", "duplicate key value violates unique constraint"⟩

/-- The failure of a row that refers to another that does not exist. -/
def Failure.unknown : Failure := ⟨"23503", "insert or update violates foreign key constraint"⟩

/-- The failure of a statement in an aborted transaction. -/
def Failure.ignored : Failure := ⟨"25P02", "current transaction is aborted"⟩

/-- The columns that rows are known by from outside. -/
def keyColumns : List String := ["id", "code", "directory_id"]

namespace Server

def start : Server where
  committed := ⟨[], []⟩
  working := ⟨[], []⟩
  lastDirectoryId := 0
  lastRecordId := 0
  now := 0
  aborted := false

/-- What an insertion gives back of its row. -/
def returned? {ρ : Type} [Columns ρ] (results : List String) (row : ρ) : Except Failure ResultSet :=
  match results.mapM fun name => (Columns.column? row name).bind Datum.cell? with
  | some cells => .ok ⟨results, [cells], 1⟩
  | none => .error .malformed

def insertDirectory (s : Server) (setting : Setting) (columns : List String) (values : List Expr)
    (results : List String) : Except Failure ResultSet × Server :=
  let next := { s with lastDirectoryId := s.lastDirectoryId + 1 }
  match setting.insert? next.lastDirectoryId columns values with
  | none => (.error .malformed, next)
  | some (row : DirectoryRow) =>
    if s.working.directories.any fun other => other.code == row.code then (.error .taken, next)
    else
      (returned? results row,
        { next with working := { s.working with directories := s.working.directories ++ [row] } })

def insertRecord (s : Server) (setting : Setting) (columns : List String) (values : List Expr)
    (results : List String) : Except Failure ResultSet × Server :=
  let next := { s with lastRecordId := s.lastRecordId + 1 }
  match setting.insert? next.lastRecordId columns values with
  | none => (.error .malformed, next)
  | some (row : RecordRow) =>
    if s.working.directories.any fun directory => directory.id == row.directoryId then
      (returned? results row, { next with working := { s.working with records := s.working.records ++ [row] } })
    else
      (.error .unknown, next)

/-- The result of a selection, or of a statement without a meaning. -/
def shown (result : Option ResultSet) : Except Failure ResultSet :=
  match result with
  | some result => .ok result
  | none => .error .malformed

/-- Carries out a statement in a transaction. -/
def perform (arrangement : Arrangement) (s : Server) (setting : Setting) :
    Statement → Except Failure ResultSet × Server
  | .select results .directories condition order window =>
    (shown (setting.select? arrangement s.working.directories results condition order window), s)
  | .select results .records condition order window =>
    (shown (setting.select? arrangement s.working.records results condition order window), s)
  | .selectJoined join =>
    let joined := (s.working.groups? join.groups).bind fun groups =>
      match join.table with
      | .directories => setting.selectJoined? arrangement s.working.directories join groups
      | .records => setting.selectJoined? arrangement s.working.records join groups
    (shown joined, s)
  | .insert .directories columns values results => s.insertDirectory setting columns values results
  | .insert .records columns values results => s.insertRecord setting columns values results
  | .update .directories assignments condition =>
    if assignments.any fun assignment => keyColumns.contains assignment.1 then (.error .malformed, s)
    else
      match setting.update? assignments condition s.working.directories with
      | some (rows, affected) =>
        (.ok ⟨[], [], affected⟩, { s with working := { s.working with directories := rows } })
      | none => (.error .malformed, s)
  | .update .records assignments condition =>
    if assignments.any fun assignment => keyColumns.contains assignment.1 then (.error .malformed, s)
    else
      match setting.update? assignments condition s.working.records with
      | some (rows, affected) =>
        (.ok ⟨[], [], affected⟩, { s with working := { s.working with records := rows } })
      | none => (.error .malformed, s)
  | .delete .records condition =>
    match setting.delete? condition s.working.records with
    | some (rows, affected) =>
      (.ok ⟨[], [], affected⟩, { s with working := { s.working with records := rows } })
    | none => (.error .malformed, s)
  | .delete .directories _ => (.error .malformed, s)
  | .commit => (.ok ⟨[], [], 0⟩, { s with committed := s.working })

def rollback (s : Server) : Server :=
  { s with working := s.committed, aborted := false }

/-- Answers a statement.  In an aborted transaction nothing is done, and committing it forgets it. -/
def answer (arrangement : Arrangement) : Database Server := fun query s =>
  if s.aborted then
    match query.statement with
    | .commit => (.ok ⟨[], [], 0⟩, s.rollback)
    | _ => (.error .ignored, s)
  else
    match s.perform arrangement ⟨s.now, query.parameters⟩ query.statement with
    | (.ok result, after) => (.ok result, { after with now := s.now + 1 })
    | (.error failure, after) => (.error failure, { after with now := s.now + 1, aborted := true })

/-- Takes one step of a session, with a database that answers its statements. -/
def stepOver (database : Database Server) (s : Server) : Step → Outcome × Server
  | .run operation => operation.task.run (Sql.answer database) s
  | .commit =>
    match commitPlan.run database s with
    | (.ok (), s) => (.ok .nothing, s)
    | (.error error, s) => (.error (.because (.store error)), s)
  | .rollback => (.ok .nothing, s.rollback)

def stepsOver (database : Database Server) (s : Server) : List Step → List Outcome × Server
  | [] => ([], s)
  | first :: rest =>
    let (outcome, s) := s.stepOver database first
    let (outcomes, s) := s.stepsOver database rest
    (outcome :: outcomes, s)

/-- Takes one step of a session whose store is this database. -/
def step (arrangement : Arrangement) (s : Server) (step : Step) : Outcome × Server :=
  s.stepOver (answer arrangement) step

def steps (arrangement : Arrangement) (s : Server) (steps : List Step) : List Outcome × Server :=
  s.stepsOver (answer arrangement) steps

end Server
end Sql
end RecordDirectory
