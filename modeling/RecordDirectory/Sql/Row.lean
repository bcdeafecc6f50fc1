import RecordDirectory.Sql.Plan
import RecordDirectory.Wire.Record

/-!
Decoding the rows of results.

A cell is found by the name of its column or by its position. A cell that is null, of another type than
expected, or with JSON content of another form, cannot be decoded; a column that is not there is another
error. The cells of a row are decoded in a fixed order, the rows from the first on, and the first error
is the answer.
-/

namespace RecordDirectory
namespace Sql

/-- One row under its column names. -/
structure Row where
  columns : List String
  cells : List Cell

namespace Row

def at? (row : Row) (index : Nat) : Except StoreError Cell :=
  match row.cells[index]? with
  | some cell => .ok cell
  | none =>
    .error (.internal ("column index out of bounds: the len is " ++ Numeral.text row.cells.length ++
      ", but the index is " ++ Numeral.text index))

/-- The cell of a column; of several columns with one name the last counts. -/
def named (row : Row) (column : String) : Except StoreError Cell :=
  match ((row.columns.zip row.cells).reverse.find? (·.1 == column)) with
  | some (_, cell) => .ok cell
  | none => .error (.internal ("no column found for name: " ++ column))

end Row

namespace Cell

/-- The error of a cell that cannot be decoded. -/
def undecodable : StoreError :=
  .undecodable "unexpected content of a column"

/-- A decoded content, or the error that there is none. -/
def decoded {α : Type} : Option α → Except StoreError α
  | some a => .ok a
  | none => .error undecodable

def integer? : Cell → Option Int
  | .integer n => some n
  | _ => none

def text? : Cell → Option String
  | .text s => some s
  | _ => none

def code? : Cell → Option DirectoryCode
  | .code c => some c
  | _ => none

def json? : Cell → Option Json
  | .json value => some value
  | _ => none

end Cell

namespace Row

def get {α : Type} (row : Row) (column : String) (read? : Cell → Option α) : Except StoreError α := do
  Cell.decoded (read? (← row.named column))

def integerAt (row : Row) (index : Nat) : Except StoreError Int := do
  Cell.decoded (Cell.integer? (← row.at? index))

def directory (row : Row) : Except StoreError Directory := do
  let id ← row.get "id" Cell.integer?
  let code ← row.get "code" Cell.code?
  let name ← row.get "name" Cell.text?
  let fields ← row.get "fields" fun cell => cell.json?.bind FieldDefinition.listOfJson?
  pure ⟨⟨id⟩, code, name, fields⟩

/-- The directory in a row with the number of its records; a negative number counts as none. -/
def summary (row : Row) : Except StoreError DirectorySummary := do
  let directory ← row.directory
  let count ← row.get "record_count" Cell.integer?
  pure (directory.summary count.toNat)

def record (row : Row) : Except StoreError Record := do
  let id ← row.get "id" Cell.integer?
  let directory ← row.get "directory_id" Cell.integer?
  let values ← row.get "field_values" fun cell => cell.json?.bind Values.ofJson?
  pure ⟨⟨id⟩, ⟨directory⟩, values⟩

/-- The record and the directory that the first two cells of a row name. -/
def owner (row : Row) : Except StoreError (RecordId × DirectoryId) := do
  let record ← row.integerAt 0
  let directory ← row.integerAt 1
  pure (⟨record⟩, ⟨directory⟩)

end Row

namespace ResultSet

def toRows (result : ResultSet) : List Row :=
  result.rows.map fun cells => ⟨result.columns, cells⟩

/-- Decodes rows up to the first that fails. -/
def decodeRows {α : Type} (decode : Row → Except StoreError α) : List Row → Except StoreError (List α)
  | [] => .ok []
  | row :: rest =>
    match decode row with
    | .error error => .error error
    | .ok a =>
      match decodeRows decode rest with
      | .error error => .error error
      | .ok as => .ok (a :: as)

def all {α : Type} (decode : Row → Except StoreError α) (result : ResultSet) :
    Except StoreError (List α) :=
  decodeRows decode result.toRows

def first? {α : Type} (decode : Row → Except StoreError α) (result : ResultSet) :
    Except StoreError (Option α) :=
  match result.toRows with
  | [] => .ok none
  | row :: _ => (decode row).map some

def one {α : Type} (decode : Row → Except StoreError α) (result : ResultSet) : Except StoreError α :=
  match result.toRows with
  | [] => .error .notFound
  | row :: _ => decode row

def changed (result : ResultSet) : Except StoreError Bool :=
  .ok (decide (0 < result.affected))

end ResultSet

end Sql
end RecordDirectory
