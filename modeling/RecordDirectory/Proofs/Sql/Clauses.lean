import RecordDirectory.Proofs.Sql.Evaluation
import RecordDirectory.Proofs.Sql.Grammar

namespace RecordDirectory
namespace Sql

/-!
# Reading statements by clauses

A reader of whole statements.  A statement is cut at its keywords into clauses, and each kind of statement is
known by the clauses that it has.  What stands in a clause is a name, a placeholder or an expression, which is
read by precedence, or a list of these.

The clauses of a join hold another selection in brackets, the one that makes the groups.  Its names are read
like all others, so that a text with another table, column or condition is read as another join.

Like the reader of expressions, this one was not made from the printer.  It takes texts that are never
printed and refuses what is no statement of the store.
-/

/-- A keyword with what stands behind it. -/
structure Clause where
  keyword : String
  body : List Lexeme

namespace Clause

/-- The keywords that cut a statement. -/
def keywords : List String :=
  ["select", "as", "from", "left", "join", "on", "where", "group", "order", "by", "limit", "offset",
    "insert", "into", "values", "returning", "update", "set", "delete", "commit"]

end Clause

def Lexeme.keyword? : Lexeme → Option String
  | .word s => if Clause.keywords.contains s then some s else none
  | .placeholder _ | .text _ | .number _ | .sign _ | .opening | .closing | .comma => none

namespace Clause

/-- What stands before the first keyword, and the clauses from there on. -/
def split : List Lexeme → List Lexeme × List Clause
  | [] => ([], [])
  | lexeme :: rest =>
    match lexeme.keyword? with
    | some keyword => ([], ⟨keyword, (split rest).1⟩ :: (split rest).2)
    | none => (lexeme :: (split rest).1, (split rest).2)

/-- Takes a clause with its keyword. -/
def take? (keyword : String) : List Clause → Option (List Lexeme × List Clause)
  | [] => none
  | clause :: rest => if clause.keyword = keyword then some (clause.body, rest) else none

end Clause

/-! ## The parts of clauses -/

namespace Expr

def column? : Expr → Option String
  | column name => some name
  | _ => none

/-- The arguments of a call. -/
def arguments? : Expr → Option (List Expr)
  | call _ arguments => some arguments
  | _ => none

def assignment? : Expr → Option (String × Expr)
  | binary .equal (column name) value => some (name, value)
  | _ => none

/-- Expressions with commas between them, which are read as the arguments of a call. -/
def listOfLexemes? (lexemes : List Lexeme) : Option (List Expr) :=
  (ofLexemes? (.word "row" :: .opening :: lexemes ++ [.closing])).bind arguments?

end Expr

def Table.ofName? (name : String) : Option Table :=
  [directories, records].find? fun table => table.name == name

/-! ## The kinds of statements -/

namespace Statement

open Clause

/-- An order of the rows by their ids, if there is one. -/
def order? (clauses : List Clause) : Option (Option SortOrder × List Clause) :=
  match take? "order" clauses with
  | none => some (none, clauses)
  | some (_ :: _, _) => none
  | some ([], rest) => do
    let ([.word column, .word direction], rest) ← take? "by" rest | none
    if column ≠ "id" then none
    else if direction = "asc" then some (some .ascending, rest)
    else if direction = "desc" then some (some .descending, rest)
    else none

def window? (clauses : List Clause) : Option (Option Window) :=
  match clauses with
  | [] => some none
  | _ :: _ => do
    let ([.placeholder limit], rest) ← take? "limit" clauses | none
    let ([.placeholder offset], []) ← take? "offset" rest | none
    some (some ⟨limit, offset⟩)

def select? (clauses : List Clause) : Option Statement := do
  let (results, rest) ← take? "select" clauses
  let ([.word table], rest) ← take? "from" rest | none
  let (condition, rest) ← take? "where" rest
  let (order, rest) ← order? rest
  let window ← window? rest
  some (.select (← Expr.listOfLexemes? results) (← Table.ofName? table) (← Expr.ofLexemes? condition) order window)

/-- The selection of groups, up to the bracket behind it and the name that it is given there. -/
def groups? (clauses : List Clause) : Option (Groups × String × List Clause) := do
  let (results, rest) ← take? "select" clauses
  let [.column column, .call function [.column "*"]] ← Expr.listOfLexemes? results | none
  let ([.word count], rest) ← take? "as" rest | none
  let ([.word table], rest) ← take? "from" rest | none
  let ([], rest) ← take? "group" rest | none
  let ([.word key, .closing, .word name], rest) ← take? "by" rest | none
  if function = "count" ∧ key = column then some (⟨← Table.ofName? table, column, count⟩, name, rest) else none

def join? (clauses : List Clause) : Option Statement := do
  let (results, rest) ← take? "select" clauses
  let ([.word last], rest) ← take? "as" rest | none
  let ([.word table, .word rowName], rest) ← take? "from" rest | none
  let ([], rest) ← take? "left" rest | none
  let ([.opening], rest) ← take? "join" rest | none
  let (groups, groupName, rest) ← groups? rest
  let (condition, rest) ← take? "on" rest
  let ([], rest) ← take? "order" rest | none
  let ([.word order], []) ← take? "by" rest | none
  if order = rowName ++ ".id" then
    some (.selectJoined ⟨← Expr.listOfLexemes? results, last, ← Table.ofName? table, rowName, groups, groupName,
      ← Expr.ofLexemes? condition⟩)
  else none

/-- A new row, whose table and columns look like a call. -/
def insert? (clauses : List Clause) : Option Statement := do
  let ([], rest) ← take? "insert" clauses | none
  let (row, rest) ← take? "into" rest
  let (values, rest) ← take? "values" rest
  let (results, []) ← take? "returning" rest | none
  let .call table columns ← Expr.ofLexemes? row | none
  let .call _ values ← Expr.ofLexemes? (.word "values" :: values) | none
  let results ← Expr.listOfLexemes? results
  some (.insert (← Table.ofName? table) (← columns.mapM Expr.column?) values (← results.mapM Expr.column?))

def update? (clauses : List Clause) : Option Statement := do
  let ([.word table], rest) ← take? "update" clauses | none
  let (assignments, rest) ← take? "set" rest
  let (condition, []) ← take? "where" rest | none
  let assignments ← Expr.listOfLexemes? assignments
  some (.update (← Table.ofName? table) (← assignments.mapM Expr.assignment?) (← Expr.ofLexemes? condition))

def delete? (clauses : List Clause) : Option Statement := do
  let ([], rest) ← take? "delete" clauses | none
  let ([.word table], rest) ← take? "from" rest | none
  let (condition, []) ← take? "where" rest | none
  some (.delete (← Table.ofName? table) (← Expr.ofLexemes? condition))

def commit? (clauses : List Clause) : Option Statement := do
  let ([], []) ← take? "commit" clauses | none
  some .commit

/-- The statement that lexemes make up. -/
def ofLexemes? (lexemes : List Lexeme) : Option Statement :=
  match split lexemes with
  | ([], clauses) =>
    [select?, join?, insert?, update?, delete?, commit?].findSome? fun kind? => kind? clauses
  | (_ :: _, _) => none

def read? (text : String) : Option Statement :=
  (Scanner.scan? .between text.toList).bind ofLexemes?

/-- The statement with all of its expressions as a grammar without lists gives them. -/
def nested : Statement → Statement
  | select results table condition order window =>
    select (Expr.nestedAll results) table condition.nested order window
  | selectJoined join =>
    selectJoined { join with results := Expr.nestedAll join.results, condition := join.condition.nested }
  | insert table columns values results => insert table columns (Expr.nestedAll values) results
  | update table assignments condition =>
    update table (assignments.map fun (column, value) => (column, value.nested)) condition.nested
  | delete table condition => delete table condition.nested
  | commit => commit

/-! ## Texts and lexemes -/

def lexemes (statement : Statement) : List Lexeme :=
  statement.tokens.flatMap Token.lexemes

/-- A text of proper tokens is read from their lexemes. -/
theorem read?_text {statement : Statement} (proper : ∀ token ∈ statement.tokens, token.isProper = true) :
    read? statement.text = ofLexemes? statement.lexemes := by
  rw [read?, text, String.toList_ofList, Scanner.scan?_writeAll proper, Option.bind_some, lexemes]

end Statement

namespace Clause

theorem split_keyword {lexeme : Lexeme} {keyword : String} (found : lexeme.keyword? = some keyword)
    (rest : List Lexeme) :
    split (lexeme :: rest) = ([], ⟨keyword, (split rest).1⟩ :: (split rest).2) := by
  rw [split, found]

/-- What holds no keyword goes to the clause in front of it. -/
theorem split_append {body : List Lexeme} (plain : ∀ lexeme ∈ body, lexeme.keyword? = none)
    (rest : List Lexeme) : split (body ++ rest) = (body ++ (split rest).1, (split rest).2) := by
  induction body with
  | nil => rfl
  | cons lexeme later inductionHypothesis =>
      rcases List.forall_mem_cons.mp plain with ⟨first, others⟩
      simp only [List.cons_append, split, first, inductionHypothesis others]

end Clause

namespace Statement

open Clause

def orderClauses : Option SortOrder → List Clause
  | none => []
  | some .ascending => [⟨"order", []⟩, ⟨"by", [.word "id", .word "asc"]⟩]
  | some .descending => [⟨"order", []⟩, ⟨"by", [.word "id", .word "desc"]⟩]

def windowClauses : Option Window → List Clause
  | none => []
  | some window => [⟨"limit", [.placeholder window.limit]⟩, ⟨"offset", [.placeholder window.offset]⟩]

theorem split_ending (order : Option SortOrder) (window : Option Window) :
    split ((orderTokens order ++ windowTokens window).flatMap Token.lexemes) =
      ([], orderClauses order ++ windowClauses window) := by
  cases window with
  | none =>
      cases order with
      | none => rfl
      | some order => cases order <;> rfl
  | some window =>
      cases order with
      | none => rfl
      | some order => cases order <;> rfl

theorem order?_orderClauses (order : Option SortOrder) (window : Option Window) :
    order? (orderClauses order ++ windowClauses window) = some (order, windowClauses window) := by
  cases order with
  | none => cases window <;> rfl
  | some order => cases order <;> rfl

theorem window?_windowClauses (window : Option Window) : window? (windowClauses window) = some window := by
  cases window <;> rfl

/-- A selection is read from its results and its condition. -/
theorem ofLexemes?_select {results condition : List Lexeme} {shown : List Expr} {chosen : Expr}
    (resultsPlain : ∀ lexeme ∈ results, lexeme.keyword? = none)
    (conditionPlain : ∀ lexeme ∈ condition, lexeme.keyword? = none)
    (resultsRead : Expr.listOfLexemes? results = some shown)
    (conditionRead : Expr.ofLexemes? condition = some chosen) (table : Table) (order : Option SortOrder)
    (window : Option Window) :
    ofLexemes? (.word "select" :: (results ++ .word "from" :: .word table.name :: .word "where" :: (condition ++
        (orderTokens order ++ windowTokens window).flatMap Token.lexemes))) =
      some (.select shown table chosen order window) := by
  have named : (Lexeme.word table.name).keyword? = none := by cases table <;> rfl
  have tableRead : Table.ofName? table.name = some table := by cases table <;> rfl
  have clauses : split (.word "select" :: (results ++ .word "from" :: .word table.name :: .word "where" ::
      (condition ++ (orderTokens order ++ windowTokens window).flatMap Token.lexemes))) =
        ([], ⟨"select", results⟩ :: ⟨"from", [.word table.name]⟩ :: ⟨"where", condition⟩ ::
          (orderClauses order ++ windowClauses window)) := by
    have fromTable := split_append (List.forall_mem_singleton.mpr named) (.word "where" ::
      (condition ++ (orderTokens order ++ windowTokens window).flatMap Token.lexemes))
    rw [List.singleton_append] at fromTable
    rw [split_keyword rfl, split_append resultsPlain, split_keyword rfl, fromTable, split_keyword rfl,
      split_append conditionPlain, split_ending]
    simp
  have read : select? (⟨"select", results⟩ :: ⟨"from", [.word table.name]⟩ :: ⟨"where", condition⟩ ::
      (orderClauses order ++ windowClauses window)) = some (.select shown table chosen order window) := by
    simp [select?, take?, order?_orderClauses, window?_windowClauses, resultsRead, conditionRead, tableRead]
  simp only [ofLexemes?, clauses, List.findSome?_cons, read]

end Statement
end Sql
end RecordDirectory
