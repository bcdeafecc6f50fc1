import RecordDirectory.Error
import RecordDirectory.Sql.Statement

/-!
Plans: computations that send statements to a database.

A plan either is done or sends one statement and goes on with its result. A statement that fails ends
the plan with the error that the failure stands for, and so does a result that cannot be decoded.
-/

namespace RecordDirectory
namespace Sql

/-- The content of one column of a row. -/
inductive Cell where
  | null
  | integer (n : Int)
  | text (s : String)
  | json (value : Json)
  | code (code : DirectoryCode)
deriving DecidableEq, Inhabited

/-- What a statement that succeeds gives: rows under column names, and how many rows it touched. -/
structure ResultSet where
  columns : List String
  rows : List (List Cell)
  affected : Nat
deriving DecidableEq, Inhabited

/-- What a statement that fails gives: the code of the failure and a message. -/
structure Failure where
  code : String
  message : String
deriving DecidableEq, Inhabited

/-- The store error of a failure: a value that must be unique is taken, a row that must exist does not,
or anything else. -/
def Failure.storeError (failure : Failure) : StoreError :=
  if failure.code = "23505" then .alreadyExists
  else if failure.code = "23503" then .notFound
  else .internal ("error returned from database: " ++ failure.message)

/-- A database, by its results: the state before a statement gives its result and the state after it. -/
abbrev Database (σ : Type) : Type :=
  Query → σ → Except Failure ResultSet × σ

/-- A computation that ends with an `α` or an error. -/
inductive Plan (α : Type) where
  | done (result : Except StoreError α)
  | send (query : Query) (next : ResultSet → Plan α)

namespace Plan

variable {α β σ : Type}

/-- Sends one statement and decodes its result. -/
def single (query : Query) (decode : ResultSet → Except StoreError α) : Plan α :=
  .send query fun result => .done (decode result)

/-- Lets a database answer the statements of a plan. -/
def run (database : Database σ) : Plan α → σ → Except StoreError α × σ
  | .done result, s => (result, s)
  | .send query next, s =>
    match database query s with
    | (.ok result, s) => run database (next result) s
    | (.error failure, s) => (.error failure.storeError, s)

end Plan

end Sql
end RecordDirectory
