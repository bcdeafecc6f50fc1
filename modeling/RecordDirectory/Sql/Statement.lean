import RecordDirectory.DirectoryCode
import RecordDirectory.Json
import RecordDirectory.Page
import RecordDirectory.Sql.Expr

/-!
SQL statements on the two tables, with their parameters and their texts.
-/

namespace RecordDirectory
namespace Sql

/-- The tables. -/
inductive Table where
  | directories
  | records
deriving DecidableEq, Inhabited

def Table.name : Table → String
  | directories => "directories"
  | records => "records"

/-- The value of a placeholder. -/
inductive Parameter where
  | integer (n : Int)
  | integers (ns : List Int)
  | text (s : String)
  | json (value : Json)
  | code (code : DirectoryCode)
deriving DecidableEq, Inhabited

/-- The placeholders that bound a result: at most so many rows, after skipping so many. -/
structure Window where
  limit : Nat
  offset : Nat
deriving DecidableEq, Inhabited

/-- The rows of a table in groups, one for each value of a column, with the number of rows in each. -/
structure Groups where
  table : Table
  column : String
  count : String
deriving DecidableEq, Inhabited

/-- The rows of a table, each with the groups that a condition holds of together with the row, or with none
if there is no such group. The names of columns start with the name of the row or of the group, and the
last result has a name of its own. -/
structure Join where
  results : List Expr
  last : String
  table : Table
  rowName : String
  groups : Groups
  groupName : String
  condition : Expr
deriving Inhabited

/-- A statement. -/
inductive Statement where
  /-- The rows of a table that a condition holds of. -/
  | select (results : List Expr) (table : Table) (condition : Expr) (order : Option SortOrder)
    (window : Option Window)
  /-- All rows of a table with the groups of a join, in the order of the ids of the rows. -/
  | selectJoined (join : Join)
  /-- A new row, of which columns are given back. -/
  | insert (table : Table) (columns : List String) (values : List Expr) (results : List String)
  | update (table : Table) (assignments : List (String × Expr)) (condition : Expr)
  | delete (table : Table) (condition : Expr)
  | commit
deriving Inhabited

/-- A statement with the values of its placeholders, the first one for number one. -/
structure Query where
  statement : Statement
  parameters : List Parameter
deriving Inhabited

namespace Statement

def words (texts : List String) : List Token :=
  texts.map .word

def nameTokens (names : List String) : List Token :=
  Expr.argumentTokens (names.map .column)

def orderKeyword : SortOrder → String
  | .ascending => "ASC"
  | .descending => "DESC"

def orderTokens : Option SortOrder → List Token
  | none => []
  | some order => words ["ORDER", "BY", "id", orderKeyword order]

def windowTokens : Option Window → List Token
  | none => []
  | some window =>
    [.word "LIMIT", .placeholder window.limit, .word "OFFSET", .placeholder window.offset]

def assignmentTokens : List (String × Expr) → List Token
  | [] => []
  | [(column, value)] => .word column :: .sign "=" :: value.tokens
  | (column, value) :: rest =>
    .word column :: .sign "=" :: value.tokens ++ .comma :: assignmentTokens rest

def groupTokens (groups : Groups) : List Token :=
  .word "SELECT" :: .word groups.column :: .comma :: (Expr.call "COUNT" [.column "*"]).tokens ++
    words ["AS", groups.count, "FROM", groups.table.name, "GROUP", "BY", groups.column]

def joinTokens (join : Join) : List Token :=
  .word "SELECT" :: Expr.argumentTokens join.results ++
    words ["AS", join.last, "FROM", join.table.name, join.rowName, "LEFT", "JOIN", "("] ++
    groupTokens join.groups ++ words [")", join.groupName, "ON"] ++ join.condition.tokens ++
    words ["ORDER", "BY", join.rowName ++ ".id"]

def tokens : Statement → List Token
  | select results table condition order window =>
    .word "SELECT" :: Expr.argumentTokens results ++ words ["FROM", table.name, "WHERE"] ++
      condition.tokens ++ orderTokens order ++ windowTokens window
  | selectJoined join => joinTokens join
  | insert table columns values results =>
    words ["INSERT", "INTO", table.name] ++ .openBracket :: nameTokens columns ++ .closeBracket ::
      .word "VALUES" :: .openBracket :: Expr.argumentTokens values ++ .closeBracket ::
      .word "RETURNING" :: nameTokens results
  | update table assignments condition =>
    words ["UPDATE", table.name, "SET"] ++ assignmentTokens assignments ++ .word "WHERE" ::
      condition.tokens
  | delete table condition => words ["DELETE", "FROM", table.name, "WHERE"] ++ condition.tokens
  | commit => [.word "COMMIT"]

def text (statement : Statement) : String :=
  String.ofList (Token.writeAll statement.tokens)

def isWrite : Statement → Bool
  | insert _ _ _ _ | update _ _ _ | delete _ _ => true
  | select _ _ _ _ _ | selectJoined _ | commit => false

end Statement

end Sql
end RecordDirectory
