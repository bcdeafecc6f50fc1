import RecordDirectory.Proofs.Sql.Clauses
import RecordDirectory.Proofs.Sql.Condition
import RecordDirectory.Proofs.Sql.Server

namespace RecordDirectory

open Sql

/-!
# A database of texts

The reference database is asked with statements, but what is sent to a database is a text and a list of
parameters.  `Server.answerText` is the reference database again, asked with no more than these: it reads the
text as a statement and carries it out, and a text that is no statement fails.

For every statement that a plan can send, this makes no difference (`sendsOnly_plan`).  The text is read back as
the statement itself, up to the nesting of its expressions and the case of its functions (`Statement.Legible`),
and such a statement is carried out like the one that was written (`Server.perform_nested`).  A whole session
therefore has the same outcomes and leaves the same tables (`Server.stepsOver_overText`).
-/

/-! ## Statements that are read back -/

namespace Sql

/-- An expression that is read back, and does not break off the clause that it stands in. -/
structure Expr.Legible (expr : Expr) : Prop where
  proper : ∀ token ∈ expr.tokens, token.isProper = true
  plain : ∀ lexeme ∈ expr.lexemes, lexeme.keyword? = none
  read : Expr.ofLexemes? expr.lexemes = some expr.nested

/-- Expressions that are read back as a list. -/
structure Expr.ListLegible (exprs : List Expr) : Prop where
  proper : ∀ token ∈ Expr.argumentTokens exprs, token.isProper = true
  plain : ∀ lexeme ∈ (Expr.argumentTokens exprs).flatMap Token.lexemes, lexeme.keyword? = none
  read : Expr.listOfLexemes? ((Expr.argumentTokens exprs).flatMap Token.lexemes) = some (Expr.nestedAll exprs)

end Sql

theorem Predicate.legible_condition (next : Nat) (predicate : Predicate) :
    (predicate.condition next).Legible where
  proper := predicate.isProper_condition next
  plain lexeme listed := by
    let isPlain (token : Token) := token.lexemes.all fun lexeme => lexeme.keyword?.isNone
    have plain : ∀ token ∈ (predicate.condition next).tokens, isPlain token = true :=
      forall_mem_tokens_condition (by decide) (fun _ => rfl) next predicate
    rcases List.mem_flatMap.mp listed with ⟨token, member, inside⟩
    exact Option.isNone_iff_eq_none.mp (List.all_eq_true.mp (plain token member) lexeme inside)
  read := predicate.ofLexemes?_condition next

namespace Sql
namespace Statement

/-- A statement that is read back from its text. -/
structure Legible (statement : Statement) : Prop where
  proper : ∀ token ∈ statement.tokens, token.isProper = true
  read : ofLexemes? statement.lexemes = some statement.nested

theorem Legible.read?_text {statement : Statement} (legible : statement.Legible) :
    read? statement.text = some statement.nested := by
  rw [Statement.read?_text legible.proper, legible.read]

theorem legible_select {results : List Expr} {condition : Expr} (listed : Expr.ListLegible results)
    (chosen : condition.Legible) (table : Table) (order : Option SortOrder) (window : Option Window) :
    (select results table condition order window).Legible where
  proper := by
    have results := List.all_eq_true.mpr listed.proper
    have condition := List.all_eq_true.mpr chosen.proper
    have opened : (Token.word "SELECT").isProper = true := by decide
    have between : (words ["FROM", table.name, "WHERE"]).all Token.isProper = true := by cases table <;> decide
    have ordered : (orderTokens order).all Token.isProper = true := by
      cases order with
      | none => rfl
      | some order => cases order <;> decide
    have bounded : (windowTokens window).all Token.isProper = true := by cases window <;> rfl
    rw [← List.all_eq_true]
    simp only [tokens, List.all_append, List.all_cons, opened, results, between, condition, ordered, bounded,
      Bool.and_self]
  read := by
    have opened : (Token.word "SELECT").lexemes = [.word "select"] := rfl
    have between : (words ["FROM", table.name, "WHERE"]).flatMap Token.lexemes =
        [.word "from", .word table.name, .word "where"] := by cases table <;> rfl
    have lexemes : (select results table condition order window).lexemes = .word "select" ::
        ((Expr.argumentTokens results).flatMap Token.lexemes ++ .word "from" :: .word table.name :: .word "where" ::
          (condition.lexemes ++ (orderTokens order ++ windowTokens window).flatMap Token.lexemes)) := by
      simp [lexemes, tokens, Expr.lexemes, List.flatMap_append, opened, between]
    rw [lexemes]
    exact ofLexemes?_select listed.plain chosen.plain listed.read chosen.read table order window

end Statement

/-! ## The statements of the store -/

theorem legible_idIs : (idIs 1).Legible :=
  ⟨by decide, by decide, rfl⟩

theorem legible_idIsAny : (idIsAny 1).Legible :=
  ⟨by decide, by decide, rfl⟩

theorem listLegible_recordColumns : Expr.ListLegible (recordColumns.map .column) :=
  ⟨by decide, by decide, rfl⟩

theorem listLegible_count : Expr.ListLegible [.call "COUNT" [.column "*"]] :=
  ⟨by decide, by decide, rfl⟩

theorem legible_directoryCounts : (Statement.selectJoined directoryCounts).Legible :=
  ⟨by decide, rfl⟩

-- A join with other names and on other columns is read as this other join.
example :
    (Statement.selectJoined
      { results := [.column "r.id", .column "c.total"], last := "total", table := .records, rowName := "r",
        groups := ⟨.directories, "id", "total"⟩, groupName := "c",
        condition := .binary .equal (.column "c.id") (.column "r.directory_id") }).Legible :=
  ⟨by decide, rfl⟩

theorem legible_insertDirectory :
    (Statement.insert .directories ["code", "name", "fields"] [.placeholder 1, .placeholder 2, .placeholder 3]
      directoryColumns).Legible :=
  ⟨by decide, rfl⟩

theorem legible_insertRecord :
    (Statement.insert .records ["directory_id", "field_values"] [.placeholder 1, .placeholder 2]
      recordColumns).Legible :=
  ⟨by decide, rfl⟩

theorem legible_updateDirectory :
    (Statement.update .directories [("name", .placeholder 2), ("fields", .placeholder 3), touched]
      (idIs 1)).Legible :=
  ⟨by decide, rfl⟩

theorem legible_updateRecord :
    (Statement.update .records [("field_values", .placeholder 2), touched] (idIs 1)).Legible :=
  ⟨by decide, rfl⟩

theorem legible_deleteRecord : (Statement.delete .records (idIs 1)).Legible :=
  ⟨by decide, rfl⟩

theorem legible_commit : Statement.commit.Legible :=
  ⟨by decide, rfl⟩

/-! ## Plans -/

/-- All statements that a plan can send, whatever is replied, have a property. -/
def Plan.SendsOnly {α : Type} (property : Query → Prop) : Plan α → Prop
  | .done _ => True
  | .send query next => property query ∧ ∀ result, (next result).SendsOnly property

/-- Databases that agree on what a plan sends carry it out alike. -/
theorem Plan.SendsOnly.run_eq {α σ : Type} {property : Query → Prop} {plan : Plan α}
    (sends : plan.SendsOnly property) {database other : Database σ}
    (agree : ∀ query s, property query → database query s = other query s) (s : σ) :
    plan.run database s = plan.run other s := by
  induction plan generalizing s with
  | done result => rfl
  | send query next inductionHypothesis =>
      rw [run, run, agree query s sends.1]
      split
      · next result after _ => exact inductionHypothesis result (sends.2 result) after
      · rfl

theorem sendsOnly_queryPlan (predicate : Predicate) (window : Option PageRequest) :
    (queryPlan predicate window).SendsOnly fun query => query.statement.Legible := by
  cases window with
  | none =>
      exact ⟨Statement.legible_select listLegible_recordColumns (predicate.legible_condition 1) _ _ _,
        fun _ => trivial⟩
  | some page =>
      refine ⟨Statement.legible_select listLegible_recordColumns (predicate.legible_condition 1) _ _ _,
        fun rows => ?_⟩
      dsimp only
      split
      · trivial
      · exact ⟨Statement.legible_select listLegible_count (predicate.legible_condition 1) _ _ _, fun _ => trivial⟩

/-- The text of every statement that a plan sends is read back. -/
theorem sendsOnly_plan (c : StoreCall) : (plan c).SendsOnly fun query => query.statement.Legible := by
  cases c with
  | existingDirectories ids =>
      exact ⟨Statement.legible_select ⟨by decide, by decide, rfl⟩ legible_idIsAny _ _ _, fun _ => trivial⟩
  | recordOwners ids =>
      exact ⟨Statement.legible_select ⟨by decide, by decide, rfl⟩ legible_idIsAny _ _ _, fun _ => trivial⟩
  | getDirectory id =>
      exact ⟨Statement.legible_select ⟨by decide, by decide, rfl⟩ legible_idIs _ _ _, fun _ => trivial⟩
  | listDirectories => exact ⟨legible_directoryCounts, fun _ => trivial⟩
  | createDirectory code draft => exact ⟨legible_insertDirectory, fun _ => trivial⟩
  | updateDirectory directory => exact ⟨legible_updateDirectory, fun _ => trivial⟩
  | getRecord id => exact ⟨Statement.legible_select listLegible_recordColumns legible_idIs _ _ _, fun _ => trivial⟩
  | createRecord directory values => exact ⟨legible_insertRecord, fun _ => trivial⟩
  | updateRecord id values => exact ⟨legible_updateRecord, fun _ => trivial⟩
  | deleteRecord id => exact ⟨legible_deleteRecord, fun _ => trivial⟩
  | queryRecords predicate window => exact sendsOnly_queryPlan predicate window

theorem sendsOnly_commitPlan : commitPlan.SendsOnly fun query => query.statement.Legible :=
  ⟨legible_commit, fun _ => trivial⟩

/-! ## What a read statement does -/

theorem Expr.isCount_nested (expr : Expr) : expr.nested.isCount = expr.isCount := by
  rw [isCount, isCount, nested_nested]

theorem Expr.columnName_nested (expr : Expr) : expr.nested.columnName = expr.columnName := by
  rw [columnName, columnName, nested_nested]

theorem Environment.holds?_nested (environment : Environment) (condition : Expr) :
    environment.holds? condition.nested = environment.holds? condition := by
  rw [holds?, holds?, Expr.eval?_nested]

theorem Environment.cells?_nested (environment : Environment) (results : List Expr) :
    environment.cells? (Expr.nestedAll results) = environment.cells? results := by
  rw [cells?, cells?, Expr.evalAll?_nested]

theorem Join.names_nested (join : Join) (condition : Expr) :
    Join.names { join with results := Expr.nestedAll join.results, condition := condition } = join.names := by
  have same : (fun result => (splitName result.columnName).2) ∘ Expr.nested =
      fun result => (splitName result.columnName).2 :=
    funext fun result => congrArg (fun name => (splitName name).2) result.columnName_nested
  simp only [names, Expr.nestedAll_eq_map, List.map_dropLast, List.map_map, same]

namespace Setting

variable {ρ : Type} [Columns ρ]

theorem filter?_nested (setting : Setting) (condition : Expr) (rows : List ρ) :
    setting.filter? condition.nested rows = setting.filter? condition rows := by
  have same : setting.holds? (ρ := ρ) condition.nested = setting.holds? condition :=
    funext fun row => Environment.holds?_nested _ condition
  rw [filter?, filter?, same]

theorem select?_nested (setting : Setting) (arrangement : Arrangement) (rows : List ρ) (results : List Expr)
    (condition : Expr) (order : Option SortOrder) (window : Option Window) :
    setting.select? arrangement rows (Expr.nestedAll results) condition.nested order window =
      setting.select? arrangement rows results condition order window := by
  have counts : Expr.isCount ∘ Expr.nested = Expr.isCount := funext Expr.isCount_nested
  have names : Expr.columnName ∘ Expr.nested = Expr.columnName := funext Expr.columnName_nested
  have cells : setting.cells? (ρ := ρ) (Expr.nestedAll results) = setting.cells? results :=
    funext fun row => Environment.cells?_nested _ results
  rw [select?, select?, filter?_nested, cells, Expr.nestedAll_eq_map, List.any_map, List.map_map, counts, names]

theorem join?_nested (setting : Setting) (join : Join) (results : List Expr) (groups : List Group) (row : ρ) :
    setting.join? { join with results := results, condition := join.condition.nested } groups row =
      setting.join? join groups row := by
  have same (group : Group) : (setting.environment (join.column? row (some group))).holds? join.condition.nested =
      (setting.environment (join.column? row (some group))).holds? join.condition :=
    Environment.holds?_nested _ join.condition
  simp only [join?, ← same]
  rfl

theorem selectJoined?_nested (setting : Setting) (arrangement : Arrangement) (rows : List ρ) (join : Join)
    (groups : List Group) :
    setting.selectJoined? arrangement rows
        { join with results := Expr.nestedAll join.results, condition := join.condition.nested } groups =
      setting.selectJoined? arrangement rows join groups := by
  have joins := funext fun row : ρ => setting.join?_nested join (Expr.nestedAll join.results) groups row
  have cells (row : ρ) (group : Option Group) :
      (setting.environment (join.column? row group)).cells? (Expr.nestedAll join.results) =
        (setting.environment (join.column? row group)).cells? join.results :=
    Environment.cells?_nested _ join.results
  rw [selectJoined?, selectJoined?, joins, join.names_nested]
  simp only [← cells]
  rfl

theorem insert?_nested (setting : Setting) (id : Int) (columns : List String) (values : List Expr) :
    setting.insert? (ρ := ρ) id columns (Expr.nestedAll values) = setting.insert? id columns values := by
  rw [insert?, insert?, Expr.evalAll?_nested]

theorem change?_nested (setting : Setting) (assignments : List (String × Expr)) (row : ρ) :
    setting.change? (assignments.map fun (column, value) => (column, value.nested)) row =
      setting.change? assignments row := by
  have values : (assignments.map fun (column, value) => (column, value.nested)).map Prod.snd =
      Expr.nestedAll (assignments.map Prod.snd) := by
    rw [Expr.nestedAll_eq_map, List.map_map, List.map_map]
    rfl
  have columns : (assignments.map fun (column, value) => (column, value.nested)).map Prod.fst =
      assignments.map Prod.fst := by
    rw [List.map_map]
    rfl
  rw [change?, change?, values, columns, Expr.evalAll?_nested]

theorem update?_nested (setting : Setting) (assignments : List (String × Expr)) (condition : Expr)
    (rows : List ρ) :
    setting.update? (assignments.map fun (column, value) => (column, value.nested)) condition.nested rows =
      setting.update? assignments condition rows := by
  induction rows with
  | nil => rfl
  | cons row rest inductionHypothesis =>
      have held : setting.holds? condition.nested row = setting.holds? condition row :=
        Environment.holds?_nested _ condition
      rw [update?, update?, held, inductionHypothesis, change?_nested]

theorem delete?_nested (setting : Setting) (condition : Expr) (rows : List ρ) :
    setting.delete? condition.nested rows = setting.delete? condition rows := by
  induction rows with
  | nil => rfl
  | cons row rest inductionHypothesis =>
      have held : setting.holds? condition.nested row = setting.holds? condition row :=
        Environment.holds?_nested _ condition
      rw [delete?, delete?, held, inductionHypothesis]

end Setting

namespace Server

/-- A statement does what it does, whether its expressions are nested or not. -/
theorem perform_nested (arrangement : Arrangement) (s : Server) (setting : Setting) (statement : Statement) :
    s.perform arrangement setting statement.nested = s.perform arrangement setting statement := by
  cases statement with
  | select results table condition order window =>
      cases table <;> simp only [Statement.nested, perform, Setting.select?_nested]
  | selectJoined join =>
      simp only [Statement.nested, perform, Setting.selectJoined?_nested]
  | insert table columns values results =>
      cases table <;>
        simp only [Statement.nested, perform, insertDirectory, insertRecord, Setting.insert?_nested]
  | update table assignments condition =>
      cases table <;>
        simp only [Statement.nested, perform, Setting.update?_nested, List.any_map, Function.comp_def]
  | delete table condition =>
      cases table <;> simp only [Statement.nested, perform, Setting.delete?_nested]
  | commit => rfl

theorem answer_nested (arrangement : Arrangement) (statement : Statement) (parameters : List Parameter)
    (s : Server) :
    answer arrangement ⟨statement.nested, parameters⟩ s = answer arrangement ⟨statement, parameters⟩ s := by
  simp only [answer, perform_nested]
  split
  · cases statement <;> rfl
  · rfl

/-- Answers a text with parameters.  What is no statement aborts the transaction. -/
def answerText (arrangement : Arrangement) (text : String) (parameters : List Parameter) (s : Server) :
    Except Failure ResultSet × Server :=
  match Statement.read? text with
  | some statement => answer arrangement ⟨statement, parameters⟩ s
  | none => (.error .malformed, { s with aborted := true })

/-- The database that is told the texts of statements with their parameters, and nothing else. -/
def overText (arrangement : Arrangement) : Database Server := fun query s =>
  answerText arrangement query.statement.text query.parameters s

theorem overText_of_legible (arrangement : Arrangement) (query : Query) (s : Server)
    (legible : query.statement.Legible) : overText arrangement query s = answer arrangement query s := by
  rw [overText, answerText, legible.read?_text]
  exact answer_nested arrangement query.statement query.parameters s

/-- The database answers all calls of a store by the texts that it is sent. -/
theorem answer_overText (arrangement : Arrangement) :
    Sql.answer (overText arrangement) = Sql.answer (answer arrangement) := by
  funext c s
  exact (sendsOnly_plan c).run_eq (overText_of_legible arrangement) s

theorem stepOver_overText (arrangement : Arrangement) (s : Server) (step : Step) :
    s.stepOver (overText arrangement) step = s.step arrangement step := by
  cases step with
  | run operation => rw [stepOver, answer_overText, Server.step, stepOver]
  | commit =>
      have committed := sendsOnly_commitPlan.run_eq (overText_of_legible arrangement) s
      rw [stepOver, committed, Server.step, stepOver]
  | rollback => rfl

/-- A session has the same outcomes and leaves the same tables, whether the database is asked with statements or
with their texts. -/
theorem stepsOver_overText (arrangement : Arrangement) (s : Server) (steps : List Step) :
    s.stepsOver (overText arrangement) steps = s.steps arrangement steps := by
  induction steps generalizing s with
  | nil => rfl
  | cons step rest inductionHypothesis =>
      simp only [stepsOver, stepOver_overText, inductionHypothesis]
      rfl

end Server

end Sql
end RecordDirectory
