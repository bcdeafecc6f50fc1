import RecordDirectory.Keyed.Lemmas
import RecordDirectory.Proofs.Sql.Evaluation
import RecordDirectory.Proofs.Sql.Grammar
import RecordDirectory.Sql.Condition
import RecordDirectory.Wire.Record

namespace RecordDirectory

open Sql

/-!
# Conditions mean what their predicates mean

A predicate goes to a database as a text with placeholders and a list of parameters.  The text is read
back by precedence as the condition that it was made from, up to the nesting of longer lists of parts
(`Predicate.read?_condition`).  On the row of a record, with the parameters in their places, the condition
is true where the predicate holds and false where it does not, and never unknown
(`Predicate.eval?_condition`).

Both parts are inductions over the predicate and, inside of AND and OR, over the lists of their parts.
The first one carries what waits outside of a condition, the second one the parameters that belong to
others.
-/

namespace Sql

/-- The lexemes of an expression. -/
def Expr.lexemes (expr : Expr) : List Lexeme :=
  expr.tokens.flatMap Token.lexemes

/-- The lexemes of parts with a keyword between them. -/
def Expr.partLexemes (connective : Connective) (parts : List Expr) : List Lexeme :=
  (Expr.partTokens connective parts).flatMap Token.lexemes

/-- What waits in a bracket where only one connective is used. -/
def Pending.only (connective : Connective) (first : Option Expr) : Pending :=
  match connective with
  | .conjunction => { nothing with conjunct := first }
  | .disjunction => { nothing with disjunct := first }

/-- A further part joined to those that came first, if there were any. -/
def Expr.joinTo (connective : Connective) (first : Option Expr) (part : Expr) : Expr :=
  match first with
  | some first => .joined connective [first, part]
  | none => part

end Sql

namespace Predicate

/-! ## The text is read back -/

/-- What is known of a reader that has read a condition: nothing outside of it has changed, and it is
closed at the level of comparisons. -/
def ReadsAs (lexemes : List Lexeme) (tree : Expr) : Prop :=
  ∀ brackets disjunct conjunct, ∃ compared operand last,
    Reader.steps? ⟨brackets, ⟨disjunct, conjunct, none, none⟩, .missing⟩ lexemes =
        some ⟨brackets, ⟨disjunct, conjunct, compared, none⟩, operand⟩ ∧
      operand.expr? = some last ∧
      Pending.closeCompared ⟨disjunct, conjunct, compared, none⟩ last = tree

theorem readsAs_truth (b : Bool) : ReadsAs (Expr.truth b).lexemes (.truth b) :=
  fun _ _ _ => ⟨none, .complete (.truth b), .truth b, by cases b <;> rfl, rfl, rfl⟩

/-- One more part before a closing bracket or another part. -/
theorem ReadsAs.only {lexemes : List Lexeme} {tree : Expr} (reads : ReadsAs lexemes tree)
    (connective : Connective) (first : Option Expr) (brackets : List (Bracket × Pending)) :
    ∃ pending operand last,
      Reader.steps? ⟨brackets, .only connective first, .missing⟩ lexemes =
          some ⟨brackets, pending, operand⟩ ∧
        operand.expr? = some last ∧ pending.close last = Expr.joinTo connective first tree ∧
        pending.connect last connective = .only connective (Expr.joinTo connective first tree) := by
  cases connective with
  | conjunction =>
      rcases reads brackets none first with ⟨compared, operand, last, read, present, closed⟩
      refine ⟨_, operand, last, read, present, ?_, ?_⟩
      · cases first <;> simp [Pending.close, Pending.closeConjunct, closed, Expr.joinTo]
      · cases first <;>
          simp [Pending.connect, Pending.closeConjunct, closed, Expr.joinTo, Pending.only, Pending.nothing]
  | disjunction =>
      rcases reads brackets first none with ⟨compared, operand, last, read, present, closed⟩
      refine ⟨_, operand, last, read, present, ?_, ?_⟩
      · cases first <;> simp [Pending.close, Pending.closeConjunct, closed, Expr.joinTo]
      · cases first <;>
          simp [Pending.connect, Pending.close, Pending.closeConjunct, closed, Expr.joinTo, Pending.only,
            Pending.nothing]

theorem step?_keyword {pending : Pending} {operand : Operand} {last : Expr}
    (present : operand.expr? = some last) (connective : Connective) (brackets : List (Bracket × Pending)) :
    Reader.step? ⟨brackets, pending, operand⟩ (Token.wordLexeme connective.keyword) =
      some ⟨brackets, pending.connect last connective, .missing⟩ := by
  cases connective with
  | conjunction =>
      change Reader.connect? _ .conjunction = _
      simp [Reader.connect?, present]
  | disjunction =>
      change Reader.connect? _ .disjunction = _
      simp [Reader.connect?, present]

/-- Parts up to the closing bracket are joined from the left to those that came first. -/
theorem steps?_parts (connective : Connective) {part : Expr} {rest : List Expr}
    (each : ∀ listed ∈ part :: rest, ReadsAs listed.lexemes listed.nested) (first : Option Expr)
    (brackets : List (Bracket × Pending)) (outside : Pending) :
    Reader.steps? ⟨(.group, outside) :: brackets, .only connective first, .missing⟩
        (Expr.partLexemes connective (part :: rest) ++ [.closing]) =
      some ⟨brackets, outside,
        .complete (Expr.nestedFrom connective (Expr.joinTo connective first part.nested) rest)⟩ := by
  induction rest generalizing part first with
  | nil =>
      rcases (each part List.mem_cons_self).only connective first ((.group, outside) :: brackets) with
        ⟨pending, operand, last, read, present, closed, _⟩
      rw [Expr.partLexemes, Expr.partTokens, ← Expr.lexemes, Reader.steps?_append, read]
      simp [Reader.steps?, Reader.step?, Reader.closing?, present, closed, Expr.nestedFrom]
  | cons next later inductionHypothesis =>
      rcases (each part List.mem_cons_self).only connective first ((.group, outside) :: brackets) with
        ⟨pending, operand, last, read, present, _, connected⟩
      have lexemes : Expr.partLexemes connective (part :: next :: later) = part.lexemes ++
          Token.wordLexeme connective.keyword :: Expr.partLexemes connective (next :: later) := by
        simp [Expr.partLexemes, Expr.partTokens, Expr.lexemes, Token.lexemes]
      have others : ∀ listed ∈ next :: later, ReadsAs listed.lexemes listed.nested :=
        fun listed member => each listed (List.mem_cons_of_mem _ member)
      rw [lexemes, List.append_assoc, Reader.steps?_append, read, List.cons_append, Option.bind_some]
      rw [Reader.steps?, step?_keyword present, connected, Option.bind_some, inductionHypothesis others]
      rfl

/-- A bracket with parts inside is read as the parts joined from the left. -/
theorem readsAs_joined {connective : Connective} {parts : List Expr} (nonempty : parts ≠ [])
    (each : ∀ part ∈ parts, ReadsAs part.lexemes part.nested) :
    ReadsAs (Expr.joined connective parts).lexemes (Expr.joined connective parts).nested := by
  intro brackets disjunct conjunct
  cases parts with
  | nil => exact absurd rfl nonempty
  | cons part rest =>
      have opened : Pending.only connective none = .nothing := by cases connective <;> rfl
      have lexemes : (Expr.joined connective (part :: rest)).lexemes =
          .opening :: (Expr.partLexemes connective (part :: rest) ++ [.closing]) := by
        simp [Expr.lexemes, Expr.tokens, Expr.partLexemes, Token.lexemes]
      refine ⟨none, .complete _, _, ?_, rfl, rfl⟩
      rw [lexemes, Reader.steps?]
      have inside := steps?_parts connective each none brackets ⟨disjunct, conjunct, none, none⟩
      rw [opened] at inside
      exact inside

mutual

/-- The condition of a predicate is read as itself, nested. -/
theorem readsAs_condition (next : Nat) (predicate : Predicate) :
    ReadsAs (predicate.condition next).lexemes (predicate.condition next).nested := by
  cases predicate with
  | always => exact readsAs_truth true
  | directoryIs id => exact fun _ _ _ => ⟨_, _, _, rfl, rfl, rfl⟩
  | contains field needle => exact fun _ _ _ => ⟨_, _, _, rfl, rfl, rfl⟩
  | all parts => exact readsAs_join .conjunction next parts
  | any parts => exact readsAs_join .disjunction next parts

theorem readsAs_join (connective : Connective) (next : Nat) (parts : List Predicate) :
    ReadsAs (join connective (conditions next parts)).lexemes
      (join connective (conditions next parts)).nested := by
  cases parts with
  | nil => exact readsAs_truth _
  | cons part rest =>
      exact readsAs_joined (List.cons_ne_nil _ _) (readsAs_conditions next (part :: rest))

theorem readsAs_conditions (next : Nat) (parts : List Predicate) :
    ∀ condition ∈ conditions next parts, ReadsAs condition.lexemes condition.nested := by
  cases parts with
  | nil => exact fun _ listed => (List.not_mem_nil listed).elim
  | cons part rest =>
      exact List.forall_mem_cons.mpr ⟨readsAs_condition next part, readsAs_conditions _ rest⟩

end

/-- The tokens that conditions are written with, besides placeholders. -/
def vocabulary : List Token :=
  [.word "TRUE", .word "FALSE", .word "AND", .word "OR", .word "directory_id", .word "field_values",
    .apply "strpos", .apply "lower", .apply "coalesce", .sign "=", .sign ">", .sign "->", .sign "->>",
    .quoted "value", .quoted "", .number 0, .openBracket, .closeBracket, .comma]

def isPlaceholder : Token → Bool
  | .placeholder _ => true
  | .word _ | .apply _ | .quoted _ | .number _ | .sign _ | .openBracket | .closeBracket | .comma => false

def isWorded (token : Token) : Bool :=
  isPlaceholder token || vocabulary.contains token

theorem isWorded_partTokens (connective : Connective) {parts : List Expr}
    (each : ∀ part ∈ parts, part.tokens.all isWorded = true) :
    (Expr.partTokens connective parts).all isWorded = true := by
  have keyword : isWorded (.word connective.keyword) = true := by cases connective <;> decide
  induction parts with
  | nil => rfl
  | cons part rest inductionHypothesis =>
      rcases List.forall_mem_cons.mp each with ⟨first, later⟩
      cases rest with
      | nil => exact first
      | cons next others =>
          rw [Expr.partTokens, List.all_append, List.all_cons, first, keyword, inductionHypothesis later]
          · rfl
          · exact List.cons_ne_nil next others

mutual

theorem isWorded_condition (next : Nat) (predicate : Predicate) :
    (predicate.condition next).tokens.all isWorded = true := by
  cases predicate with
  | always => rfl
  | directoryIs id => rfl
  | contains field needle => rfl
  | all parts => exact isWorded_join .conjunction next parts
  | any parts => exact isWorded_join .disjunction next parts

theorem isWorded_join (connective : Connective) (next : Nat) (parts : List Predicate) :
    (join connective (conditions next parts)).tokens.all isWorded = true := by
  cases parts with
  | nil => cases connective <;> rfl
  | cons part rest =>
      have inside := isWorded_partTokens connective (isWorded_conditions next (part :: rest))
      rw [conditions, join, Expr.tokens, List.cons_append, List.all_cons, List.all_append, ← conditions, inside]
      · rfl
      · exact List.cons_ne_nil _ _

theorem isWorded_conditions (next : Nat) (parts : List Predicate) :
    ∀ condition ∈ conditions next parts, condition.tokens.all isWorded = true := by
  cases parts with
  | nil => exact fun _ listed => (List.not_mem_nil listed).elim
  | cons part rest =>
      exact List.forall_mem_cons.mpr ⟨isWorded_condition next part, isWorded_conditions _ rest⟩

end

/-- What holds of the vocabulary and of all placeholders holds of all tokens of a condition. -/
theorem forall_mem_tokens_condition {property : Token → Bool} (words : vocabulary.all property = true)
    (placeholders : ∀ n, property (.placeholder n) = true) (next : Nat) (predicate : Predicate) :
    ∀ token ∈ (predicate.condition next).tokens, property token = true := by
  intro token listed
  have worded := List.all_eq_true.mp (isWorded_condition next predicate) token listed
  rcases Bool.or_eq_true_iff.mp worded with numbered | word
  · cases token with
    | placeholder n => exact placeholders n
    | word | apply | quoted | number | sign | openBracket | closeBracket | comma => cases numbered
  · exact List.all_eq_true.mp words token (List.contains_iff_mem.mp word)

theorem isProper_condition (next : Nat) (predicate : Predicate) :
    ∀ token ∈ (predicate.condition next).tokens, token.isProper = true :=
  forall_mem_tokens_condition (by decide) (fun _ => rfl) next predicate

/-- The text of a condition. -/
def conditionText (next : Nat) (predicate : Predicate) : String :=
  String.ofList (Token.writeAll (predicate.condition next).tokens)

/-- The lexemes of a condition make up the condition, nested. -/
theorem ofLexemes?_condition (next : Nat) (predicate : Predicate) :
    Expr.ofLexemes? (predicate.condition next).lexemes = some (predicate.condition next).nested := by
  rcases readsAs_condition next predicate [] none none with ⟨compared, operand, last, read, present, closed⟩
  have finished : Reader.finish? ⟨[], ⟨none, none, compared, none⟩, operand⟩ =
      some (predicate.condition next).nested := by
    simp [Reader.finish?, present, Pending.close, Pending.closeConjunct, closed]
  exact (congrArg (fun reader => reader.bind Reader.finish?) read).trans finished

theorem scan?_conditionText (next : Nat) (predicate : Predicate) :
    Scanner.scan? .between (predicate.conditionText next).toList = some (predicate.condition next).lexemes := by
  rw [conditionText, String.toList_ofList, Scanner.scan?_writeAll (isProper_condition next predicate)]
  rfl

/-- The text of a condition is read back as the condition, nested. -/
theorem read?_condition (next : Nat) (predicate : Predicate) :
    Expr.read? (predicate.conditionText next) = some (predicate.condition next).nested := by
  rw [Expr.read?, scan?_conditionText, Option.bind_some, ofLexemes?_condition]

example : conditionText 1 (.all [.directoryIs ⟨7⟩, .any [.contains "title" "invoice", .any []]]) =
    "(directory_id = $1 AND (strpos(lower(coalesce(field_values -> $2 ->> 'value', '')), $3) > 0 OR FALSE))" := by
  decide +kernel

/-! ## The condition has the truth value of the predicate -/

mutual

/-- The fields whose texts a predicate looks at. -/
def searched : Predicate → List String
  | .always | .directoryIs _ => []
  | .contains field _ => [field]
  | .all parts | .any parts => searchedOfAll parts

/-- The fields that several predicates look at. -/
def searchedOfAll : List Predicate → List String
  | [] => []
  | part :: rest => searched part ++ searchedOfAll rest

end

end Predicate

namespace Sql
namespace Environment

/-- The row shows the directory and the values of a record. -/
structure Shows (environment : Environment) (record : Record) : Prop where
  directory : environment.column? "directory_id" = some (.integer record.directory.number)
  values : environment.column? "field_values" = some (.json record.values.toJson)

variable {environment : Environment} {record : Record}

/-- A placeholder has the parameter in its place. -/
theorem placeholder?_of_append {earlier later : List Parameter} {parameter : Parameter}
    (placed : environment.parameters = earlier ++ parameter :: later) :
    environment.placeholder? (earlier.length + 1) = some parameter.datum := by
  simp [placeholder?, placed]

theorem jsonMember?_toJson (values : Values) (field : String) :
    jsonMember? values.toJson field = (values.get? field).map FieldValue.toJson :=
  Keyed.get?_mapValues FieldValue.toJson values field

/-- The stored form of a value shows the text that a search looks at. -/
theorem memberText_toJson (value : FieldValue) :
    BinaryOp.compute? .memberText (.json value.toJson) (.text "value") = some (.text value.projection) := by
  cases value <;> rfl

/-- The text of a field in a row is that of the record, folded as the database folds it. -/
theorem Shows.eval?_fieldText (shows : environment.Shows record) {n : Nat} {field : String}
    (named : environment.placeholder? n = some (.text field)) :
    (Predicate.fieldText n).eval? environment = some (.text (environment.lower (record.project field))) := by
  have member : BinaryOp.compute? .member (.json record.values.toJson) (.text field) =
      some (((record.values.get? field).map FieldValue.toJson).elim .null .json) := by
    rw [← jsonMember?_toJson]
    rfl
  simp only [Predicate.fieldText, Expr.eval?, Expr.evalAll?, shows.values, named, Option.bind_eq_bind,
    Option.bind_some, member, Record.project]
  cases record.values.get? field with
  | none => rfl
  | some value =>
      simp only [Option.map_some, Option.elim_some, memberText_toJson, Option.bind_some]
      rfl

end Environment
end Sql

namespace Predicate

variable {environment : Environment} {record : Record}

/-- Whether joined predicates hold, given whether what stands before them does. -/
def holdsJoined (record : Record) : Connective → Bool → List Predicate → Bool
  | .conjunction, first, parts => first && holdsAll record parts
  | .disjunction, first, parts => first || holdsAny record parts

theorem holdsJoined_cons (record : Record) (connective : Connective) (first : Bool) (part : Predicate)
    (rest : List Predicate) :
    ∃ joined, connective.compute? (.truth first) (.truth (part.holds record)) = some (.truth joined) ∧
      holdsJoined record connective joined rest = holdsJoined record connective first (part :: rest) := by
  cases connective with
  | conjunction => exact ⟨_, rfl, by simp [holdsJoined, holdsAll, Bool.and_assoc]⟩
  | disjunction => exact ⟨_, rfl, by simp [holdsJoined, holdsAny, Bool.or_assoc]⟩

/-- The parameters of parts, seen from the first one and from those behind it. -/
theorem placed_cons {placed earlier later : List Parameter} {part : Predicate} {rest : List Predicate}
    (split : placed = earlier ++ parametersOfAll (part :: rest) ++ later) :
    placed = earlier ++ part.parameters ++ (parametersOfAll rest ++ later) ∧
      placed = (earlier ++ part.parameters) ++ parametersOfAll rest ++ later := by
  simp [split, parametersOfAll]

mutual

/-- A condition is true where its predicate holds and false where it does not. -/
theorem eval?_condition (shows : environment.Shows record) (predicate : Predicate)
    (folds : ∀ field ∈ predicate.searched,
      environment.lower (record.project field) = Text.foldCase (record.project field))
    {earlier later : List Parameter}
    (placed : environment.parameters = earlier ++ predicate.parameters ++ later) :
    (predicate.condition (earlier.length + 1)).eval? environment = some (.truth (predicate.holds record)) := by
  cases predicate with
  | always => rfl
  | directoryIs id =>
      have own : environment.parameters = earlier ++ .integer id.number :: later := by
        simpa [parameters] using placed
      have named := Environment.placeholder?_of_append own
      have same : (record.directory.number == id.number) = (record.directory == id) := by
        rw [Bool.eq_iff_iff, beq_iff_eq, beq_iff_eq]
        exact ⟨fun equal => congrArg DirectoryId.mk equal, congrArg DirectoryId.number⟩
      simp only [condition, Expr.eval?, shows.directory, named, Option.bind_eq_bind, Option.bind_some,
        Parameter.datum, BinaryOp.compute?, same, holds]
  | contains field needle =>
      have own : environment.parameters = earlier ++ .text field :: (.text needle :: later) := by
        simpa [parameters] using placed
      have second : environment.parameters = (earlier ++ [.text field]) ++ .text needle :: later := by
        simpa using own
      have fieldNamed := Environment.placeholder?_of_append own
      have needleNamed := Environment.placeholder?_of_append second
      rw [List.length_append, List.length_singleton] at needleNamed
      have folded := folds field List.mem_cons_self
      have found :
          decide ((0 : Int) < (position needle.toList (Text.foldCase (record.project field)).toList : Nat)) =
          Text.contains (Text.foldCase (record.project field)) needle := by
        rw [Bool.eq_iff_iff, decide_eq_true_eq, Int.natCast_pos, position_pos_iff]
        exact Iff.rfl
      simp only [condition, Expr.eval?, Expr.evalAll?, shows.eval?_fieldText fieldNamed, needleNamed,
        Option.bind_eq_bind, Option.bind_some, folded]
      exact congrArg (fun b => some (Datum.truth b)) found
  | all parts => exact eval?_join shows .conjunction parts folds placed
  | any parts => exact eval?_join shows .disjunction parts folds placed

theorem eval?_join (shows : environment.Shows record) (connective : Connective) (parts : List Predicate)
    (folds : ∀ field ∈ searchedOfAll parts,
      environment.lower (record.project field) = Text.foldCase (record.project field))
    {earlier later : List Parameter}
    (placed : environment.parameters = earlier ++ parametersOfAll parts ++ later) :
    (join connective (conditions (earlier.length + 1) parts)).eval? environment =
      some (.truth (holdsJoined record connective (connective == .conjunction) parts)) := by
  cases parts with
  | nil => cases connective <;> rfl
  | cons part rest =>
      rcases placed_cons placed with ⟨before, behind⟩
      rcases List.forall_mem_append.mp folds with ⟨foldsPart, foldsRest⟩
      have others := evalJoined?_conditions shows connective (part.holds record) rest foldsRest behind
      rw [List.length_append, Nat.add_right_comm] at others
      rw [conditions, join, Expr.eval?, eval?_condition shows part foldsPart before, others]
      · cases connective <;> simp [holdsJoined, holdsAll, holdsAny]
      · exact List.cons_ne_nil _ _

theorem evalJoined?_conditions (shows : environment.Shows record) (connective : Connective) (first : Bool)
    (parts : List Predicate)
    (folds : ∀ field ∈ searchedOfAll parts,
      environment.lower (record.project field) = Text.foldCase (record.project field))
    {earlier later : List Parameter}
    (placed : environment.parameters = earlier ++ parametersOfAll parts ++ later) :
    Expr.evalJoined? environment connective (some (.truth first)) (conditions (earlier.length + 1) parts) =
      some (.truth (holdsJoined record connective first parts)) := by
  cases parts with
  | nil => cases connective <;> simp [conditions, Expr.evalJoined?, holdsJoined, holdsAll, holdsAny]
  | cons part rest =>
      rcases placed_cons placed with ⟨before, behind⟩
      rcases List.forall_mem_append.mp folds with ⟨foldsPart, foldsRest⟩
      rcases holdsJoined_cons record connective first part rest with ⟨joined, applied, same⟩
      have others := evalJoined?_conditions shows connective joined rest foldsRest behind
      rw [List.length_append, Nat.add_right_comm] at others
      rw [conditions, Expr.evalJoined?, eval?_condition shows part foldsPart before]
      simp only [Option.bind_eq_bind, Option.bind_some, applied]
      rw [others, same]

end

end Predicate

/-- The row of a record, in a database that folds case in some way. -/
def Record.row (record : Record) (lower : String → String) (now : Nat) (parameters : List Parameter) :
    Environment where
  lower := lower
  now := now
  column? name :=
    if name = "id" then some (.integer record.id.number)
    else if name = "directory_id" then some (.integer record.directory.number)
    else if name = "field_values" then some (.json record.values.toJson)
    else none
  parameters := parameters

namespace Predicate

/-- The text of a condition, read by precedence and evaluated on the row of a record, has the truth value
that the predicate has of the record, whatever parameters stand around its own. -/
theorem eval?_read?_conditionText (predicate : Predicate) (record : Record) (lower : String → String)
    (folds : ∀ field ∈ predicate.searched, lower (record.project field) = Text.foldCase (record.project field))
    (now : Nat) (earlier later : List Parameter) :
    (Expr.read? (predicate.conditionText (earlier.length + 1))).bind
        (Expr.eval? (record.row lower now (earlier ++ predicate.parameters ++ later))) =
      some (.truth (predicate.holds record)) := by
  have shows : (record.row lower now (earlier ++ predicate.parameters ++ later)).Shows record := ⟨rfl, rfl⟩
  rw [read?_condition, Option.bind_some, Expr.eval?_nested]
  exact eval?_condition shows predicate folds rfl

/-- A search for two texts, one of which no field has. -/
def sampleSearch : Predicate :=
  .all [.directoryIs ⟨7⟩, .any [.contains "title" "voice", .contains "notes" "paid", .any []], .all []]

theorem eval?_sampleSearch :
    (Expr.read? (sampleSearch.conditionText 1)).bind
        (Expr.eval? (Record.row ⟨⟨3⟩, ⟨7⟩, .ofList [("title", .text "INVOICE")]⟩
          (fun s => String.ofList (s.toList.map Char.toLower)) 0 sampleSearch.parameters)) =
      some (.truth true) :=
  eval?_read?_conditionText sampleSearch _ _ (by decide +kernel) 0 [] []

end Predicate
end RecordDirectory
