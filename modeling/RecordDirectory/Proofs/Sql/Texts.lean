import RecordDirectory.Proofs.Sql.Condition
import RecordDirectory.Sql.Script

namespace RecordDirectory

open Sql

/-!
# Texts without data

What a caller chooses, the id of a directory, the name of a field or what is searched for, goes to the
database as a parameter and never as a part of a text.  The texts that a query for records sends are
therefore the same for any two predicates of one shape and any two windows of one order, whatever the
database replies.

The placeholders in the text of a condition are counted through its parts, so that each of them has the
number that its parameter has in the list.  This is read off the text itself and not off the tokens that it
was written from.

The statement that counts the matching records is written from the same predicate once more.  Its
condition is the same text with the same parameters, so that a page and its total cannot drift apart.
-/

namespace Predicate

/-! ## Shapes and leaves -/

mutual

/-- What a predicate is made of, without the ids, the names of fields and the needles in it. -/
def shape : Predicate → Predicate
  | .always => .always
  | .directoryIs _ => .directoryIs default
  | .contains _ _ => .contains "" ""
  | .all parts => .all (shapes parts)
  | .any parts => .any (shapes parts)

/-- The shapes of several predicates. -/
def shapes : List Predicate → List Predicate
  | [] => []
  | part :: rest => shape part :: shapes rest

end

mutual

/-- The parts of a predicate that have no parts themselves, from left to right. -/
def leaves : Predicate → List Predicate
  | .all parts | .any parts => leavesOfAll parts
  | .always => [.always]
  | .directoryIs id => [.directoryIs id]
  | .contains field needle => [.contains field needle]

/-- The leaves of several predicates. -/
def leavesOfAll : List Predicate → List Predicate
  | [] => []
  | part :: rest => leaves part ++ leavesOfAll rest

end

/-- What a leaf compares a record with. -/
def data : Predicate → List Parameter
  | .directoryIs id => [.integer id.number]
  | .contains field needle => [.text field, .text needle]
  | .always | .all _ | .any _ => []

mutual

/-- The parameters are the data of the leaves, from left to right. -/
theorem parameters_eq_flatMap (predicate : Predicate) :
    predicate.parameters = predicate.leaves.flatMap data := by
  cases predicate with
  | always | directoryIs | contains => rfl
  | all parts => exact parametersOfAll_eq_flatMap parts
  | any parts => exact parametersOfAll_eq_flatMap parts

theorem parametersOfAll_eq_flatMap (parts : List Predicate) :
    parametersOfAll parts = (leavesOfAll parts).flatMap data := by
  cases parts with
  | nil => rfl
  | cons part rest =>
      rw [parametersOfAll, leavesOfAll, List.flatMap_append, parameters_eq_flatMap part,
        parametersOfAll_eq_flatMap rest]

end

mutual

theorem length_parameters_shape (predicate : Predicate) :
    predicate.shape.parameters.length = predicate.parameters.length := by
  cases predicate with
  | always | directoryIs | contains => rfl
  | all parts => exact length_parametersOfAll_shapes parts
  | any parts => exact length_parametersOfAll_shapes parts

theorem length_parametersOfAll_shapes (parts : List Predicate) :
    (parametersOfAll (shapes parts)).length = (parametersOfAll parts).length := by
  cases parts with
  | nil => rfl
  | cons part rest =>
      rw [shapes, parametersOfAll, parametersOfAll, List.length_append, List.length_append,
        length_parameters_shape part, length_parametersOfAll_shapes rest]

end

mutual

/-- A condition is that of the shape. -/
theorem condition_shape (next : Nat) (predicate : Predicate) :
    predicate.shape.condition next = predicate.condition next := by
  cases predicate with
  | always | directoryIs | contains => rfl
  | all parts => exact congrArg (join .conjunction) (conditions_shapes next parts)
  | any parts => exact congrArg (join .disjunction) (conditions_shapes next parts)

theorem conditions_shapes (next : Nat) (parts : List Predicate) :
    conditions next (shapes parts) = conditions next parts := by
  cases parts with
  | nil => rfl
  | cons part rest =>
      rw [shapes, conditions, conditions, condition_shape next part, length_parameters_shape part,
        conditions_shapes _ rest]

end

end Predicate

/-! ## Placeholders -/

namespace Sql

/-- The number of a placeholder. -/
def Lexeme.placeholder? : Lexeme → Option Nat
  | .placeholder n => some n
  | .word _ | .text _ | .number _ | .sign _ | .opening | .closing | .comma => none

/-- The placeholders in a text, in the order in which they stand there. -/
def placeholders? (text : String) : Option (List Nat) :=
  (Scanner.scan? .between text.toList).map fun lexemes => lexemes.filterMap Lexeme.placeholder?

/-- The placeholders among tokens. -/
def placeholdersOf (tokens : List Token) : List Nat :=
  (tokens.flatMap Token.lexemes).filterMap Lexeme.placeholder?

theorem placeholdersOf_append (first second : List Token) :
    placeholdersOf (first ++ second) = placeholdersOf first ++ placeholdersOf second := by
  rw [placeholdersOf, List.flatMap_append, List.filterMap_append]
  rfl

/-- The placeholders in a written text are those of its tokens. -/
theorem placeholders?_writeAll {tokens : List Token} (proper : tokens.all Token.isProper = true) :
    placeholders? (String.ofList (Token.writeAll tokens)) = some (placeholdersOf tokens) := by
  rw [placeholders?, String.toList_ofList, Scanner.scan?_writeAll (List.all_eq_true.mp proper)]
  rfl

/-- The keywords between parts are no placeholders. -/
theorem placeholdersOf_partTokens (connective : Connective) (parts : List Expr) :
    placeholdersOf (Expr.partTokens connective parts) =
      parts.flatMap fun part => placeholdersOf part.tokens := by
  induction parts with
  | nil => rfl
  | cons part rest inductionHypothesis =>
      cases rest with
      | nil => rw [Expr.partTokens, List.flatMap_singleton]
      | cons next later =>
          rw [Expr.partTokens, placeholdersOf_append, List.flatMap_cons, ← inductionHypothesis]
          · cases connective <;> rfl
          · exact List.cons_ne_nil next later

theorem placeholdersOf_joined (connective : Connective) (parts : List Expr) :
    placeholdersOf (Expr.joined connective parts).tokens =
      parts.flatMap fun part => placeholdersOf part.tokens := by
  have bracketed : (Expr.joined connective parts).tokens =
      [.openBracket] ++ Expr.partTokens connective parts ++ [.closeBracket] := by
    rw [Expr.tokens]
    rfl
  have opening : placeholdersOf [.openBracket] = [] := rfl
  have closing : placeholdersOf [.closeBracket] = [] := rfl
  rw [bracketed, placeholdersOf_append, placeholdersOf_append, opening, closing, List.nil_append,
    List.append_nil, placeholdersOf_partTokens]

end Sql

namespace Predicate

mutual

/-- The placeholders of a condition are counted from `next` on, one for each parameter. -/
theorem placeholdersOf_condition (next : Nat) (predicate : Predicate) :
    placeholdersOf (predicate.condition next).tokens = List.range' next predicate.parameters.length := by
  cases predicate with
  | always | directoryIs | contains => rfl
  | all parts => exact placeholdersOf_join .conjunction next parts
  | any parts => exact placeholdersOf_join .disjunction next parts

theorem placeholdersOf_join (connective : Connective) (next : Nat) (parts : List Predicate) :
    placeholdersOf (join connective (conditions next parts)).tokens =
      List.range' next (parametersOfAll parts).length := by
  cases parts with
  | nil => cases connective <;> rfl
  | cons part rest =>
      have inside := placeholdersOf_conditions next (part :: rest)
      rw [conditions] at inside
      rw [conditions, join, placeholdersOf_joined, inside]
      exact List.cons_ne_nil _ _

theorem placeholdersOf_conditions (next : Nat) (parts : List Predicate) :
    ((conditions next parts).flatMap fun part => placeholdersOf part.tokens) =
      List.range' next (parametersOfAll parts).length := by
  cases parts with
  | nil => rfl
  | cons part rest =>
      rw [conditions, List.flatMap_cons, placeholdersOf_condition next part,
        placeholdersOf_conditions _ rest, parametersOfAll, List.length_append, List.range'_append_1]

end

end Predicate

/-! ## Texts in parts -/

namespace Sql

/-- Tokens that can stand between blanks: the first one does not close, and the last one does not open. -/
structure Separate (tokens : List Token) : Prop where
  first : ∃ head tail, tokens = head :: tail ∧ head.closes = false
  last : ∃ init final, tokens = init ++ [final] ∧ final.opens = false

/-- Behind a token that does not open and before one that does not close there is a blank. -/
theorem writeAll_append (init : List Token) {final head : Token} (tail : List Token)
    (opens : final.opens = false) (closes : head.closes = false) :
    Token.writeAll (init ++ final :: head :: tail) =
      Token.writeAll (init ++ [final]) ++ ' ' :: Token.writeAll (head :: tail) := by
  induction init with
  | nil => simp [Token.writeAll, opens, closes]
  | cons token rest inductionHypothesis =>
      cases rest with
      | nil =>
          simp only [List.nil_append] at inductionHypothesis
          simp [Token.writeAll, opens, closes]
      | cons next later =>
          simp only [List.cons_append, Token.writeAll] at inductionHypothesis ⊢
          rw [inductionHypothesis]
          simp

/-- The text of tokens. -/
def textOf (tokens : List Token) : String :=
  String.ofList (Token.writeAll tokens)

theorem Separate.textOf_append {first second : List Token} (before : Separate first)
    (behind : Separate second) : textOf (first ++ second) = textOf first ++ " " ++ textOf second := by
  rcases before.last with ⟨init, final, rfl, opens⟩
  rcases behind.first with ⟨head, tail, rfl, closes⟩
  have blank : String.ofList [' '] = " " := rfl
  rw [textOf, List.append_assoc, List.singleton_append, writeAll_append init tail opens closes,
    List.append_cons, String.ofList_append, String.ofList_append, blank]
  rfl

theorem Separate.append {first second : List Token} (before : Separate first) (behind : Separate second) :
    Separate (first ++ second) := by
  rcases before.first with ⟨head, tail, rfl, closes⟩
  rcases behind.last with ⟨init, final, rfl, opens⟩
  exact ⟨⟨head, _, rfl, closes⟩, ⟨_, final, (List.append_assoc ..).symm, opens⟩⟩

end Sql

namespace Predicate

theorem separate_truth (b : Bool) : Separate (Expr.truth b).tokens := by
  cases b <;> exact ⟨⟨_, _, rfl, rfl⟩, ⟨[], _, rfl, rfl⟩⟩

theorem separate_join (connective : Connective) (parts : List Expr) :
    Separate (join connective parts).tokens := by
  cases parts with
  | nil => exact separate_truth _
  | cons part rest =>
      rw [join, Expr.tokens]
      · exact ⟨⟨.openBracket, _, rfl, rfl⟩,
          ⟨.openBracket :: Expr.partTokens connective (part :: rest), .closeBracket, rfl, rfl⟩⟩
      · exact List.cons_ne_nil part rest

/-- Conditions start and end with tokens that stand apart from others. -/
theorem separate_condition (next : Nat) (predicate : Predicate) :
    Separate (predicate.condition next).tokens := by
  cases predicate with
  | always => exact separate_truth true
  | directoryIs id => exact ⟨⟨_, _, rfl, rfl⟩, ⟨[.word "directory_id", .sign "="], _, rfl, rfl⟩⟩
  | contains field needle =>
      let position := Expr.call "strpos" [fieldText next, .placeholder (next + 1)]
      exact ⟨⟨_, _, rfl, rfl⟩, ⟨position.tokens ++ [.sign ">"], .number 0, rfl, rfl⟩⟩
  | all parts => exact separate_join .conjunction _
  | any parts => exact separate_join .disjunction _

end Predicate

/-! ## The statements of a query for records -/

namespace Sql

/-- The text of an order and a window behind a condition that has so many parameters. -/
def windowText (count : Nat) (order : SortOrder) : String :=
  " ORDER BY id " ++ Statement.orderKeyword order ++ " LIMIT $" ++ Numeral.text (count + 1 : Nat) ++
    " OFFSET $" ++ Numeral.text (count + 2 : Nat)

/-- The text of a query for records behind its condition, which has so many parameters. -/
def ending (count : Nat) : Option PageRequest → String
  | none => " ORDER BY id ASC"
  | some page => windowText count page.sort

/-- The parameters of a window, each of them no greater than the greatest signed word of 64 bits. -/
def windowParameters : Option PageRequest → List Parameter
  | none => []
  | some page =>
    [.integer (min page.limit 9223372036854775807 : Nat), .integer (min page.offset 9223372036854775807 : Nat)]

/-- The statement that selects the records of a predicate in a window. -/
structure SelectsRecords (predicate : Predicate) (page : Option PageRequest) (query : Query) : Prop where
  text : query.statement.text = "SELECT id, directory_id, field_values FROM records WHERE " ++
    predicate.conditionText 1 ++ ending predicate.parameters.length page
  parameters : query.parameters = predicate.leaves.flatMap Predicate.data ++ windowParameters page
  placeholders : placeholders? query.statement.text = some (List.range' 1 query.parameters.length)

/-- The statement that counts the records of a predicate. -/
structure CountsRecords (predicate : Predicate) (query : Query) : Prop where
  text : query.statement.text = "SELECT COUNT(*) FROM records WHERE " ++ predicate.conditionText 1
  parameters : query.parameters = predicate.leaves.flatMap Predicate.data

/-- The tokens in front of a condition on records. -/
def openingTokens (results : List Expr) : List Token :=
  .word "SELECT" :: Expr.argumentTokens results ++ Statement.words ["FROM", Table.records.name, "WHERE"]

theorem separate_opening (results : List Expr) : Separate (openingTokens results) :=
  ⟨⟨_, _, rfl, rfl⟩, ⟨.word "SELECT" :: Expr.argumentTokens results ++ Statement.words ["FROM", "records"],
    .word "WHERE", by simp [openingTokens, Statement.words, Table.name], rfl⟩⟩

/-- The text of a selection of records that ends with its condition. -/
theorem text_select (results : List Expr) (next : Nat) (predicate : Predicate) :
    (Statement.select results .records (predicate.condition next) none none).text =
      textOf (openingTokens results) ++ " " ++ predicate.conditionText next := by
  have tokens : (Statement.select results .records (predicate.condition next) none none).tokens =
      openingTokens results ++ (predicate.condition next).tokens := by
    simp [Statement.tokens, Statement.orderTokens, Statement.windowTokens, openingTokens]
  change textOf _ = _
  rw [tokens, (separate_opening results).textOf_append (predicate.separate_condition next)]
  rfl

theorem separate_order (order : SortOrder) : Separate (Statement.orderTokens (some order)) :=
  ⟨⟨_, _, rfl, rfl⟩, ⟨Statement.words ["ORDER", "BY", "id"], _, rfl, rfl⟩⟩

theorem separate_window (window : Window) : Separate (Statement.windowTokens (some window)) :=
  ⟨⟨_, _, rfl, rfl⟩, ⟨[.word "LIMIT", .placeholder window.limit, .word "OFFSET"], _, rfl, rfl⟩⟩

theorem tokens_select_ordered (results : List Expr) (condition : Expr) (order : SortOrder)
    (window : Option Window) :
    (Statement.select results .records condition (some order) window).tokens =
      (openingTokens results ++ condition.tokens) ++
        (Statement.orderTokens (some order) ++ Statement.windowTokens window) := by
  simp [Statement.tokens, openingTokens]

/-- The text of a selection of records in an order. -/
theorem text_select_ordered (results : List Expr) (next : Nat) (predicate : Predicate) (order : SortOrder)
    (window : Option Window) :
    (Statement.select results .records (predicate.condition next) (some order) window).text =
      textOf (openingTokens results) ++ " " ++ predicate.conditionText next ++ " " ++
        textOf (Statement.orderTokens (some order) ++ Statement.windowTokens window) := by
  have separate : Separate (Statement.orderTokens (some order) ++ Statement.windowTokens window) := by
    cases window with
    | none => exact (List.append_nil _).symm ▸ separate_order order
    | some window => exact (separate_order order).append (separate_window window)
  have opened := separate_opening results
  have condition := predicate.separate_condition next
  change textOf _ = _
  rw [tokens_select_ordered, (opened.append condition).textOf_append separate, opened.textOf_append condition]
  rfl

theorem textOf_windowTokens (window : Window) :
    textOf (Statement.windowTokens (some window)) =
      "LIMIT $" ++ Numeral.text window.limit ++ " OFFSET $" ++ Numeral.text window.offset := by
  apply String.toList_inj.mp
  simp [textOf, Statement.windowTokens, Token.writeAll, Token.write, Token.opens, Token.closes,
    Numeral.text, Numeral.writeInt]

theorem text_recordsQuery (predicate : Predicate) (page : Option PageRequest) :
    (recordsQuery predicate page).statement.text = "SELECT id, directory_id, field_values FROM records WHERE " ++
      predicate.conditionText 1 ++ ending predicate.parameters.length page := by
  have opened : textOf (openingTokens (recordColumns.map .column)) ++ " " =
      "SELECT id, directory_id, field_values FROM records WHERE " := by decide
  cases page with
  | none =>
      have ended : " " ++ textOf (Statement.orderTokens (some .ascending) ++ Statement.windowTokens none) =
          " ORDER BY id ASC" := by decide
      rw [recordsQuery, text_select_ordered, opened, String.append_assoc, ended]
      rfl
  | some page =>
      have ordered : " " ++ textOf (Statement.orderTokens (some page.sort)) ++ " " ++ "LIMIT $" =
          " ORDER BY id " ++ Statement.orderKeyword page.sort ++ " LIMIT $" := by
        cases page.sort <;> decide
      have ended : " " ++ textOf (Statement.orderTokens (some page.sort) ++ Statement.windowTokens
            (some ⟨predicate.parameters.length + 1, predicate.parameters.length + 2⟩)) =
          windowText predicate.parameters.length page.sort := by
        rw [(separate_order page.sort).textOf_append (separate_window _), textOf_windowTokens]
        unfold windowText
        simp only [← String.append_assoc, ordered]
      rw [recordsQuery, text_select_ordered, opened, String.append_assoc, ended, ending]

theorem text_countQuery (predicate : Predicate) :
    (countQuery predicate).statement.text =
      "SELECT COUNT(*) FROM records WHERE " ++ predicate.conditionText 1 := by
  have opened : textOf (openingTokens [.call "COUNT" [.column "*"]]) ++ " " =
      "SELECT COUNT(*) FROM records WHERE " := by decide
  rw [countQuery, text_select, opened]

theorem countsRecords_countQuery (predicate : Predicate) : CountsRecords predicate (countQuery predicate) where
  text := text_countQuery predicate
  parameters := predicate.parameters_eq_flatMap

theorem parameters_recordsQuery (predicate : Predicate) (page : Option PageRequest) :
    (recordsQuery predicate page).parameters = predicate.parameters ++ windowParameters page := by
  cases page with
  | none => exact (List.append_nil _).symm
  | some page => rfl

/-- The placeholders of a selection are those of its condition and those of its window. -/
theorem placeholders?_select_ordered (next : Nat) (predicate : Predicate) (order : SortOrder)
    (window : Option Window) :
    placeholders?
        (Statement.select (recordColumns.map .column) .records (predicate.condition next) (some order) window).text =
      some (List.range' next predicate.parameters.length ++
        placeholdersOf (Statement.windowTokens window)) := by
  have opening : (openingTokens (recordColumns.map .column)).all Token.isProper = true := by decide
  have ordering : (Statement.orderTokens (some order)).all Token.isProper = true := by cases order <;> decide
  have windowing : (Statement.windowTokens window).all Token.isProper = true := by
    cases window with
    | none => rfl
    | some window => rfl
  have unopened : placeholdersOf (openingTokens (recordColumns.map .column)) = [] := by decide
  have unordered : placeholdersOf (Statement.orderTokens (some order)) = [] := by cases order <;> decide
  change placeholders? (textOf _) = _
  rw [tokens_select_ordered]
  refine (placeholders?_writeAll ?_).trans (congrArg some ?_)
  · simp only [List.all_append, opening, ordering, windowing,
      List.all_eq_true.mpr (predicate.isProper_condition next), Bool.and_self]
  · simp only [placeholdersOf_append, unopened, unordered, predicate.placeholdersOf_condition,
      List.nil_append]

/-- The text of a query for records has one placeholder for each parameter, in their order. -/
theorem placeholders?_recordsQuery (predicate : Predicate) (page : Option PageRequest) :
    placeholders? (recordsQuery predicate page).statement.text =
      some (List.range' 1 (recordsQuery predicate page).parameters.length) := by
  rw [parameters_recordsQuery, List.length_append, ← List.range'_append_1]
  cases page with
  | none => exact placeholders?_select_ordered 1 predicate .ascending none
  | some page =>
      rw [recordsQuery, placeholders?_select_ordered, Nat.add_comm 1]
      rfl

theorem selectsRecords_recordsQuery (predicate : Predicate) (page : Option PageRequest) :
    SelectsRecords predicate page (recordsQuery predicate page) where
  text := text_recordsQuery predicate page
  parameters := by rw [parameters_recordsQuery, predicate.parameters_eq_flatMap]
  placeholders := placeholders?_recordsQuery predicate page

/-! ## Whatever the database replies -/

/-- The first reply of a script. -/
def firstReply : List (Except Failure ResultSet) → Except Failure ResultSet
  | [] => .ok silent
  | reply :: _ => reply

/-- Whether the first reply of a script gives records. -/
def givesRecords (replies : List (Except Failure ResultSet)) : Bool :=
  match firstReply replies with
  | .ok rows => (rows.all Row.record).isOk
  | .error _ => false

/-- The statements of a query for records, when the database replies as a script says. -/
def sentFor (predicate : Predicate) (page : Option PageRequest) (replies : List (Except Failure ResultSet)) :
    List Query :=
  ((plan (.queryRecords predicate page)).run scripted ⟨replies, []⟩).2.sent

/-- A statement is sent with the first reply left for the rest of its plan. -/
theorem sent_of_send {α : Type} (query : Query) (next : ResultSet → Plan α)
    (replies : List (Except Failure ResultSet)) (sent : List Query) :
    ((Plan.send query next).run scripted ⟨replies, sent⟩).2.sent =
      match firstReply replies with
      | .ok rows => ((next rows).run scripted ⟨replies.tail, sent ++ [query]⟩).2.sent
      | .error _ => sent ++ [query] := by
  cases replies with
  | nil => rfl
  | cons reply rest => cases reply <;> rfl

theorem sent_of_single {α : Type} (query : Query) (decode : ResultSet → Except StoreError α)
    (replies : List (Except Failure ResultSet)) (sent : List Query) :
    ((Plan.single query decode).run scripted ⟨replies, sent⟩).2.sent = sent ++ [query] := by
  rw [Plan.single, sent_of_send]
  split <;> rfl

/-- Behind a reply that gives no records nothing is sent, and behind one that does the records are counted. -/
theorem sent_of_page (predicate : Predicate) (page : PageRequest) (replies : List (Except Failure ResultSet)) :
    sentFor predicate (some page) replies = recordsQuery predicate (some page) ::
      if givesRecords replies then [countQuery predicate] else [] := by
  change ((queryPlan predicate (some page)).run scripted ⟨replies, []⟩).2.sent = _
  rw [queryPlan, sent_of_send]
  -- Only a reply whose rows all read as records lets the plan go on to its second statement.
  cases replied : firstReply replies with
  | error failure =>
      have gives : givesRecords replies = false := by simp only [givesRecords, replied]
      rw [gives]
      rfl
  | ok rows =>
      cases read : rows.all Row.record with
      | error failure =>
          have gives : givesRecords replies = false := by
            simp only [givesRecords, replied, read]
            rfl
          simp only [gives, read]
          rfl
      | ok records =>
          have gives : givesRecords replies = true := by
            simp only [givesRecords, replied, read]
            rfl
          simp only [gives, read]
          exact sent_of_single ..

/-- The records are selected, and then those on all pages are counted if a page was asked for and read. -/
theorem sentFor_eq (predicate : Predicate) (page : Option PageRequest)
    (replies : List (Except Failure ResultSet)) :
    sentFor predicate page replies = recordsQuery predicate page ::
      if page.isSome && givesRecords replies then [countQuery predicate] else [] := by
  cases page with
  | none => exact sent_of_single ..
  | some page => exact sent_of_page predicate page replies

theorem conditionText_eq_of_shape {predicate other : Predicate} (shape : other.shape = predicate.shape)
    (next : Nat) : other.conditionText next = predicate.conditionText next := by
  rw [Predicate.conditionText, ← other.condition_shape next, shape, predicate.condition_shape next]
  rfl

theorem length_parameters_eq_of_shape {predicate other : Predicate} (shape : other.shape = predicate.shape) :
    other.parameters.length = predicate.parameters.length := by
  rw [← other.length_parameters_shape, shape, predicate.length_parameters_shape]

/-- What stands behind a condition shows no more of a window than its order. -/
theorem ending_eq_of_sort (count : Nat) {page window : Option PageRequest}
    (order : window.map PageRequest.sort = page.map PageRequest.sort) : ending count window = ending count page := by
  cases window with
  | none =>
      cases page with
      | none => rfl
      | some page => cases order
  | some window =>
      cases page with
      | none => cases order
      | some page => exact congrArg (windowText count) (Option.some.inj order)

/-- A query for records sends no data in its texts: for another predicate of the same shape and another
window of the same order they are the same, whatever is replied.  The data are the parameters instead, one
for each placeholder, and the count of a page has the condition and the parameters of its selection. -/
theorem texts_of_query (predicate : Predicate) (page : Option PageRequest)
    (replies : List (Except Failure ResultSet)) :
    (∀ (other : Predicate) (window : Option PageRequest) (replied : List (Except Failure ResultSet)),
      other.shape = predicate.shape → window.map PageRequest.sort = page.map PageRequest.sort →
      givesRecords replied = givesRecords replies →
        (sentFor other window replied).map (·.statement.text) =
          (sentFor predicate page replies).map (·.statement.text)) ∧
    ∃ select counts, sentFor predicate page replies = select :: counts ∧
      SelectsRecords predicate page select ∧ (∀ count ∈ counts, CountsRecords predicate count) ∧
      counts.length = if page.isSome && givesRecords replies then 1 else 0 := by
  constructor
  · intro other window replied shape order gives
    have paged : window.isSome = page.isSome := by
      rw [← Option.isSome_map, order, Option.isSome_map]
    have selected : (recordsQuery other window).statement.text = (recordsQuery predicate page).statement.text := by
      rw [text_recordsQuery, text_recordsQuery, conditionText_eq_of_shape shape,
        length_parameters_eq_of_shape shape, ending_eq_of_sort _ order]
    have counted : (countQuery other).statement.text = (countQuery predicate).statement.text := by
      rw [text_countQuery, text_countQuery, conditionText_eq_of_shape shape]
    rw [sentFor_eq, sentFor_eq, paged, gives, List.map_cons, List.map_cons, selected]
    split
    · rw [List.map_singleton, List.map_singleton, counted]
    · rfl
  · refine ⟨_, _, sentFor_eq predicate page replies, selectsRecords_recordsQuery predicate page, ?_, ?_⟩
    · intro count sent
      split at sent
      · rw [List.mem_singleton.mp sent]
        exact countsRecords_countQuery predicate
      · cases sent
    · split <;> rfl

/-- A search in a directory for a needle in one of its fields, beside a disjunction of nothing. -/
def searchFor (id : DirectoryId) (field needle : String) : Predicate :=
  .all [.directoryIs id, .any [.contains field needle, .any []]]

/-- A field and a needle with quotes, and a window beyond the signed words, show in no text.  They are
parameters, and the bounds of the window are the greatest word. -/
theorem texts_of_quoted_query :
    let quoted := searchFor ⟨-1⟩ "$1' OR TRUE --" "'; DELETE FROM records"
    let far : PageRequest := ⟨18446744073709551615, 9223372036854775808, .descending⟩
    let empty : List (Except Failure ResultSet) := [.ok ⟨recordColumns, [], 0⟩]
    (sentFor quoted (some far) empty).map (·.statement.text) =
        (sentFor (searchFor ⟨7⟩ "title" "voice") (some ⟨0, 20, .descending⟩) (empty ++ empty)).map
          (·.statement.text) ∧
      (sentFor quoted (some far) empty).map (·.parameters) =
        [[.integer (-1), .text "$1' OR TRUE --", .text "'; DELETE FROM records",
            .integer 9223372036854775807, .integer 9223372036854775807],
          [.integer (-1), .text "$1' OR TRUE --", .text "'; DELETE FROM records"]] :=
  ⟨(texts_of_query (searchFor ⟨7⟩ "title" "voice") _ _).1 _ _ _ rfl rfl rfl, by decide +kernel⟩

end Sql
end RecordDirectory
