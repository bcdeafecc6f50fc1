import RecordDirectory.Proofs.Sql.Server
import RecordDirectory.Sql.Script

namespace RecordDirectory
namespace Sql

/-!
# Conversations with a database

A database is taken at its word here and at nothing else.  It may fail at any statement, reply with no rows
where there must be one, with rows that cannot be decoded, or with rows that contradict what it replied
before.  A conversation lists the statements that were sent with the replies to them, and `Converses` says
which conversations a task can have and how it ends then.  A script of replies leads to one of them
(`converses_runScripted`).

Whatever the replies are, an error in one of them ends the conversation, and the task ends with that error
(`Converses.endsAtError`).  What a task sends at all is the matter of its contract (`Sends`), which is
computed from the task and the exchanges so far, without any assumption about the replies to come.
-/

/-- A statement and the reply to it. -/
structure Exchange where
  query : Query
  reply : Except Failure ResultSet

/-! ## Errors of replies -/

def errorOf? {α : Type} : Except StoreError α → Option StoreError
  | .ok _ => none
  | .error error => some error

theorem eq_error_of_errorOf? {α : Type} {result : Except StoreError α} {error : StoreError}
    (found : errorOf? result = some error) : result = .error error := by
  cases result with
  | ok a => cases found
  | error other =>
      cases found
      rfl

theorem errorOf?_map {α β : Type} (f : α → β) (result : Except StoreError α) :
    errorOf? (result.map f) = errorOf? result := by
  cases result <;> rfl

theorem of_map_eq_ok {α β : Type} {f : α → β} {result : Except StoreError α} {b : β}
    (mapped : result.map f = .ok b) : ∃ a, result = .ok a ∧ f a = b := by
  cases result with
  | ok a => exact ⟨a, rfl, Except.ok.inj mapped⟩
  | error error => cases mapped

/-- Why the rows of a result are none of those that a statement asks for.  A single row that may be missing
is the first one, and one that has to be there is an error if it is not; of a list, all rows are decoded.
What only touches rows gives none. -/
def Statement.fault? (rows : ResultSet) : Statement → Option StoreError
  | .select results _ _ order _ =>
    let columns := results.map Expr.columnName
    if results.any Expr.isCount then errorOf? (rows.one (·.integerAt 0))
    else if columns = directoryColumns then errorOf? (rows.first? Row.directory)
    else if columns = recordColumns then
      match order with
      | none => errorOf? (rows.first? Row.record)
      | some _ => errorOf? (rows.all Row.record)
    else if columns = ["id", "directory_id"] then errorOf? (rows.all Row.owner)
    else errorOf? (rows.all (·.integerAt 0))
  | .selectJoined _ => errorOf? (rows.all Row.summary)
  | .insert .directories _ _ _ => errorOf? (rows.one Row.directory)
  | .insert .records _ _ _ => errorOf? (rows.one Row.record)
  | .update _ _ _ | .delete _ _ | .commit => none

/-- The store error that a reply stands for. -/
def Exchange.error? (exchange : Exchange) : Option StoreError :=
  match exchange.reply with
  | .ok rows => exchange.query.statement.fault? rows
  | .error failure => some failure.storeError

/-! ## Every exchange with what comes before and after it -/

/-- A property of each exchange, together with the exchanges before it and those after it. -/
def AtEach (property : List Exchange → Exchange → List Exchange → Prop) (exchanges : List Exchange) : Prop :=
  ∀ earlier exchange later, exchanges = earlier ++ exchange :: later → property earlier exchange later

section AtEach

variable {property : List Exchange → Exchange → List Exchange → Prop}

theorem atEach_nil : AtEach property [] :=
  fun earlier _ _ split =>
    absurd split.symm (List.append_ne_nil_of_right_ne_nil earlier (List.cons_ne_nil _ _))

theorem atEach_cons {first : Exchange} {rest : List Exchange} (head : property [] first rest)
    (tail : AtEach (fun earlier => property (first :: earlier)) rest) : AtEach property (first :: rest) := by
  intro earlier exchange later split
  cases earlier with
  | nil =>
      cases split
      exact head
  | cons other others =>
      rcases List.cons.inj split with ⟨rfl, restSplit⟩
      exact tail others exchange later restSplit

theorem AtEach.tail {first : Exchange} {rest : List Exchange} (each : AtEach property (first :: rest)) :
    AtEach (fun earlier => property (first :: earlier)) rest :=
  fun earlier exchange later split => each (first :: earlier) exchange later (congrArg _ split)

theorem AtEach.append {first second : List Exchange}
    (left : AtEach (fun earlier exchange later => property earlier exchange (later ++ second)) first)
    (right : AtEach (fun earlier => property (first ++ earlier)) second) :
    AtEach property (first ++ second) := by
  induction first generalizing property with
  | nil => exact right
  | cons exchange rest inductionHypothesis =>
      refine atEach_cons (left [] exchange rest rfl) (inductionHypothesis ?_ right)
      exact fun earlier other later split => left (exchange :: earlier) other later (congrArg _ split)

theorem AtEach.mono {other : List Exchange → Exchange → List Exchange → Prop} {exchanges : List Exchange}
    (each : AtEach property exchanges)
    (implied : ∀ {earlier exchange later}, property earlier exchange later → other earlier exchange later) :
    AtEach other exchanges :=
  fun earlier exchange later split => implied (each earlier exchange later split)

/-- What holds of each exchange and those before it holds of any two in their order. -/
theorem AtEach.pairwise {relation : Exchange → Exchange → Prop} {exchanges : List Exchange}
    (each : AtEach property exchanges)
    (related : ∀ {earlier exchange later}, property earlier exchange later →
      ∀ other ∈ earlier, relation other exchange) :
    exchanges.Pairwise relation := by
  induction exchanges generalizing property with
  | nil => exact .nil
  | cons first rest inductionHypothesis =>
      refine .cons (fun exchange listed => ?_) (inductionHypothesis each.tail fun holds other listed => ?_)
      · rcases List.append_of_mem listed with ⟨earlier, later, rfl⟩
        exact related (each (first :: earlier) exchange later rfl) first List.mem_cons_self
      · exact related holds other (List.mem_cons_of_mem _ listed)

/-- Exchanges are no more than those before the last one and the last one. -/
theorem AtEach.length_le {bound : Nat} {exchanges : List Exchange} (each : AtEach property exchanges)
    (few : ∀ {earlier exchange later}, property earlier exchange later → earlier.length < bound) :
    exchanges.length ≤ bound := by
  rcases List.eq_nil_or_concat exchanges with rfl | ⟨earlier, last, rfl⟩
  · exact Nat.zero_le bound
  · rw [List.length_concat]
    exact few (each earlier last [] List.concat_eq_append)

end AtEach

/-! ## The conversations of plans and tasks -/

/-- A plan can have this conversation, and then it ends with this result. -/
inductive Plan.Converses {α : Type} : Plan α → List Exchange → Except StoreError α → Prop
  | done (result : Except StoreError α) : Converses (.done result) [] result
  | failed (query : Query) (next : ResultSet → Plan α) (failure : Failure) :
      Converses (.send query next) [⟨query, .error failure⟩] (.error failure.storeError)
  | replied {query : Query} {next : ResultSet → Plan α} {rows : ResultSet} {later : List Exchange}
      {result : Except StoreError α} (rest : Converses (next rows) later result) :
      Converses (.send query next) (⟨query, .ok rows⟩ :: later) result

/-- A task can have this conversation, and then it ends with this result. -/
inductive Converses {α : Type} : Task α → List Exchange → Except (Stop ServiceError) α → Prop
  | done (result : Except (Stop ServiceError) α) : Converses (.done result) [] result
  | refused {c : StoreCall} {next : c.Reply → Task α} {exchanges : List Exchange} {error : StoreError}
      (call : (plan c).Converses exchanges (.error error)) :
      Converses (.ask c next) exchanges (.error (.because (.store error)))
  | answered {c : StoreCall} {next : c.Reply → Task α} {reply : c.Reply} {first later : List Exchange}
      {result : Except (Stop ServiceError) α} (call : (plan c).Converses first (.ok reply))
      (rest : Converses (next reply) later result) : Converses (.ask c next) (first ++ later) result

/-! ## Scripts lead to conversations -/

/-- Statements with their replies.  The database is silent when its script has ended. -/
def exchanges : List Query → List (Except Failure ResultSet) → List Exchange
  | [], _ => []
  | query :: queries, [] => ⟨query, .ok silent⟩ :: exchanges queries []
  | query :: queries, reply :: replies => ⟨query, reply⟩ :: exchanges queries replies

theorem length_exchanges (queries : List Query) (replies : List (Except Failure ResultSet)) :
    (exchanges queries replies).length = queries.length := by
  induction queries generalizing replies with
  | nil => rfl
  | cons query rest inductionHypothesis => cases replies <;> simp [exchanges, inductionHypothesis]

theorem map_query_exchanges (queries : List Query) (replies : List (Except Failure ResultSet)) :
    (exchanges queries replies).map Exchange.query = queries := by
  induction queries generalizing replies with
  | nil => rfl
  | cons query rest inductionHypothesis => cases replies <;> simp [exchanges, inductionHypothesis]

theorem exchanges_append (first second : List Query) (replies : List (Except Failure ResultSet)) :
    exchanges (first ++ second) replies =
      exchanges first replies ++ exchanges second (replies.drop first.length) := by
  induction first generalizing replies with
  | nil => rfl
  | cons query rest inductionHypothesis => cases replies <;> simp [exchanges, inductionHypothesis]

theorem Plan.converses_scripted {α : Type} (plan : Plan α) (script : Script) :
    ∃ queries, (plan.run scripted script).2 =
        ⟨script.results.drop queries.length, script.sent ++ queries⟩ ∧
      plan.Converses (exchanges queries script.results) (plan.run scripted script).1 := by
  induction plan generalizing script with
  | done result => exact ⟨[], by simp [run], .done result⟩
  | send query next inductionHypothesis =>
      rcases script with ⟨results, sent⟩
      cases results with
      | nil =>
          rcases inductionHypothesis silent ⟨[], sent ++ [query]⟩ with ⟨queries, after, talk⟩
          refine ⟨query :: queries, ?_, .replied talk⟩
          simpa [run, scripted] using after
      | cons reply rest =>
          cases reply with
          | error failure => exact ⟨[query], rfl, .failed query next failure⟩
          | ok rows =>
              rcases inductionHypothesis rows ⟨rest, sent ++ [query]⟩ with ⟨queries, after, talk⟩
              refine ⟨query :: queries, ?_, .replied talk⟩
              simpa [run, scripted] using after

theorem converses_scripted {α : Type} (task : Task α) (script : Script) :
    ∃ queries, (task.run (answer scripted) script).2 =
        ⟨script.results.drop queries.length, script.sent ++ queries⟩ ∧
      Converses task (exchanges queries script.results) (task.run (answer scripted) script).1 := by
  induction task generalizing script with
  | done result => exact ⟨[], by simp [Task.run], .done result⟩
  | ask c next inductionHypothesis =>
      rcases Plan.converses_scripted (plan c) script with ⟨queries, after, talk⟩
      simp only [Task.run, answer]
      rcases asked : (plan c).run scripted script with ⟨result, left⟩
      rw [asked] at after talk
      cases result with
      | error error => exact ⟨queries, after, .refused talk⟩
      | ok reply =>
          rcases inductionHypothesis reply left with ⟨more, afterAll, rest⟩
          simp only at after
          subst after
          refine ⟨queries ++ more, ?_, ?_⟩
          · simpa [List.drop_drop, List.append_assoc] using afterAll
          · rw [exchanges_append]
            exact .answered talk rest

/-- A scripted run is a conversation of the operation. -/
theorem converses_runScripted (operation : Operation) (results : List (Except Failure ResultSet)) :
    Converses operation.task (exchanges (runScripted operation results).statements results)
      (runScripted operation results).outcome := by
  rcases converses_scripted operation.task ⟨results, []⟩ with ⟨queries, after, talk⟩
  have sent : (runScripted operation results).statements = queries := by
    change (operation.task.run (answer scripted) ⟨results, []⟩).2.sent = queries
    rw [after]
    rfl
  rw [sent]
  exact talk

/-! ## An error ends a conversation -/

/-- An exchange with an error is the last one, and the outcome is what the error leads to. -/
def EndsAtError (outcome : StoreError → Prop) (exchanges : List Exchange) : Prop :=
  AtEach (fun _ exchange later => ∀ error, exchange.error? = some error → later = [] ∧ outcome error)
    exchanges

/-- A plan that ends with the fault in the rows of a result, where there is one. -/
def Plan.Reports {α : Type} : Plan α → Prop
  | .done _ => True
  | .send query next => ∀ rows,
    (∀ error, query.statement.fault? rows = some error → next rows = .done (.error error)) ∧
      (next rows).Reports

theorem Plan.reports_single {α : Type} {query : Query} {decode : ResultSet → Except StoreError α}
    (asked : ∀ rows, query.statement.fault? rows = errorOf? (decode rows)) :
    (Plan.single query decode).Reports :=
  fun rows => ⟨fun _ found => congrArg Plan.done (eq_error_of_errorOf? (asked rows ▸ found)), trivial⟩

theorem Plan.Converses.endsAtError {α : Type} {plan : Plan α} {exchanges : List Exchange}
    {result : Except StoreError α} (talk : plan.Converses exchanges result) (reports : plan.Reports) :
    EndsAtError (fun error => result = .error error) exchanges := by
  induction talk with
  | done => exact atEach_nil
  | failed query next failure =>
      refine atEach_cons (fun error found => ⟨rfl, ?_⟩) atEach_nil
      cases found
      rfl
  | @replied query next rows later result rest inductionHypothesis =>
      rcases reports rows with ⟨ends, restReports⟩
      refine atEach_cons (fun error found => ?_) (inductionHypothesis restReports)
      rw [ends error found] at rest
      cases rest
      exact ⟨rfl, rfl⟩

theorem reports_queryPlan (predicate : Predicate) (page : Option PageRequest) :
    (queryPlan predicate page).Reports := by
  cases page with
  | none => exact Plan.reports_single fun _ => (errorOf?_map _ _).symm
  | some page =>
      intro rows
      have asked : (recordsQuery predicate (some page)).statement.fault? rows =
          errorOf? (rows.all Row.record) := rfl
      beta_reduce
      rw [asked]
      cases rows.all Row.record with
      | error error =>
          refine ⟨fun other found => ?_, trivial⟩
          cases found
          rfl
      | ok items =>
          refine ⟨fun other found => ?_, Plan.reports_single fun _ => (errorOf?_map _ _).symm⟩
          cases found

/-- The plan of every call decodes the rows that its statements ask for. -/
theorem reports_plan (c : StoreCall) : (plan c).Reports := by
  cases c with
  | existingDirectories | recordOwners => exact Plan.reports_single fun _ => (errorOf?_map _ _).symm
  | getDirectory | listDirectories | createDirectory | updateDirectory | getRecord | createRecord
  | updateRecord | deleteRecord => exact Plan.reports_single fun _ => rfl
  | queryRecords predicate page => exact reports_queryPlan predicate page

theorem EndsAtError.append {first second : List Exchange} {outcome : StoreError → Prop}
    (left : EndsAtError (fun _ => False) first) (right : EndsAtError outcome second) :
    EndsAtError outcome (first ++ second) :=
  AtEach.append (left.mono fun none error found => (none error found).2.elim) right

/-- Of a conversation, only the last exchange can have an error, and then the task ends with it. -/
theorem Converses.endsAtError {α : Type} {task : Task α} {exchanges : List Exchange}
    {result : Except (Stop ServiceError) α} (talk : Converses task exchanges result) :
    EndsAtError (fun error => result = .error (.because (.store error))) exchanges := by
  induction talk with
  | done => exact atEach_nil
  | @refused c next exchanges error call =>
      refine (call.endsAtError (reports_plan c)).mono fun ends other found => ?_
      rcases ends other found with ⟨last, same⟩
      cases same
      exact ⟨last, rfl⟩
  | @answered c next reply first later result call rest inductionHypothesis =>
      refine EndsAtError.append ?_ inductionHypothesis
      exact (call.endsAtError (reports_plan c)).mono fun ends error found => by cases (ends error found).2

/-! ## Contracts on what is sent -/

namespace Plan

variable {α : Type}

/-- Every statement may be sent after the exchanges before it, and a result satisfies a condition together
with all exchanges. -/
def Sends (may : List Exchange → Query → Prop) (ends : α → List Exchange → Prop) :
    Plan α → List Exchange → Prop
  | .done (.ok a), log => ends a log
  | .done (.error _), _ => True
  | .send query next, log =>
    may log query ∧ ∀ rows, (next rows).Sends may ends (log ++ [⟨query, .ok rows⟩])

theorem sends_single {may : List Exchange → Query → Prop} (query : Query)
    (decode : ResultSet → Except StoreError α) (ends : α → List Exchange → Prop) {log : List Exchange} :
    (single query decode).Sends may ends log ↔
      may log query ∧ ∀ rows a, decode rows = .ok a → ends a (log ++ [⟨query, .ok rows⟩]) := by
  simp only [single, Sends]
  refine and_congr_right fun _ => forall_congr' fun rows => ?_
  cases decode rows <;> simp [Sends]

theorem Converses.sends {may : List Exchange → Query → Prop} {ends : α → List Exchange → Prop}
    {plan : Plan α} {exchanges log : List Exchange} {result : Except StoreError α}
    (talk : plan.Converses exchanges result) (sends : plan.Sends may ends log) :
    AtEach (fun earlier exchange _ => may (log ++ earlier) exchange.query) exchanges ∧
      ∀ a, result = .ok a → ends a (log ++ exchanges) := by
  -- What has been replied moves from the conversation to the log.
  induction talk generalizing log with
  | done result =>
      refine ⟨atEach_nil, ?_⟩
      rintro a rfl
      simpa [Sends] using sends
  | failed query next failure =>
      refine ⟨atEach_cons (by simpa using sends.1) atEach_nil, ?_⟩
      rintro a same
      cases same
  | @replied query next rows later result rest inductionHypothesis =>
      rcases inductionHypothesis (sends.2 rows) with ⟨each, atEnd⟩
      refine ⟨atEach_cons (by simpa using sends.1) (each.mono fun sent => ?_), fun a same => ?_⟩
      · simpa using sent
      · simpa using atEnd a same

end Plan

/-- The same of a task, whose results are answers. -/
def Sends {α : Type} (may : List Exchange → Query → Prop) (ends : α → List Exchange → Prop) :
    Task α → List Exchange → Prop
  | .done (.ok a), log => ends a log
  | .done (.error _), _ => True
  | .ask c next, log => (plan c).Sends may (fun reply log => Sends may ends (next reply) log) log

theorem Converses.sends {α : Type} {may : List Exchange → Query → Prop} {ends : α → List Exchange → Prop}
    {task : Task α} {exchanges log : List Exchange} {result : Except (Stop ServiceError) α}
    (talk : Converses task exchanges result) (sends : Sends may ends task log) :
    AtEach (fun earlier exchange _ => may (log ++ earlier) exchange.query) exchanges := by
  induction talk generalizing log with
  | done => exact atEach_nil
  | refused call => exact (call.sends sends).1
  | @answered c next reply first later result call rest inductionHypothesis =>
      rcases call.sends sends with ⟨each, atEnd⟩
      refine each.append ((inductionHypothesis (atEnd reply rfl)).mono fun sent => ?_)
      rwa [List.append_assoc] at sent

section Sends

variable {α β : Type} {may : List Exchange → Query → Prop} {log : List Exchange}

theorem sends_bind (task : Task α) (next : α → Task β) (ends : β → List Exchange → Prop) :
    Sends may ends (task >>= next) log ↔ Sends may (fun a log => Sends may ends (next a) log) task log := by
  change Sends may ends (task.bind next) log ↔ _
  induction task generalizing log with
  | done result => cases result <;> exact Iff.rfl
  | ask c more inductionHypothesis =>
      simp only [Task.bind, Sends, inductionHypothesis]

theorem sends_map (f : α → β) (task : Task α) (ends : β → List Exchange → Prop) :
    Sends may ends (f <$> task) log ↔ Sends may (fun a log => ends (f a) log) task log :=
  sends_bind task (fun a => pure (f a)) ends

theorem sends_pure (a : α) (ends : α → List Exchange → Prop) :
    Sends may ends (pure a) log ↔ ends a log :=
  Iff.rfl

theorem sends_fail (error : ServiceError) (ends : α → List Exchange → Prop) :
    Sends may ends (Task.fail error) log :=
  trivial

theorem sends_validated (result : Except ValidationError α) (ends : α → List Exchange → Prop) :
    Sends may ends (Task.validated result) log ↔ ∀ a, result = .ok a → ends a log := by
  cases result <;> simp [Task.validated, Task.fail, Sends]

theorem sends_settled (result : Except (Stop ValidationError) α) (ends : α → List Exchange → Prop) :
    Sends may ends (Task.settled result) log ↔ ∀ a, result = .ok a → ends a log := by
  rcases result with (error | _) | a <;> simp [Task.settled, Task.fail, Sends]

theorem sends_found (error : ServiceError) (value : Option α) (ends : α → List Exchange → Prop) :
    Sends may ends (Task.found error value) log ↔ ∀ a, value = some a → ends a log := by
  cases value <;> simp [Task.found, Task.fail, Sends]

theorem sends_ask (c : StoreCall) (ends : c.Reply → List Exchange → Prop) :
    Sends may ends (Task.call c) log ↔ (plan c).Sends may ends log :=
  Iff.rfl

/-- A call of one statement goes on with what its rows decode to. -/
theorem sends_call {c : StoreCall} {query : Query} {decode : ResultSet → Except StoreError c.Reply}
    (asked : plan c = .single query decode) (ends : c.Reply → List Exchange → Prop) :
    Sends may ends (Task.call c) log ↔
      may log query ∧ ∀ rows reply, decode rows = .ok reply → ends reply (log ++ [⟨query, .ok rows⟩]) := by
  rw [sends_ask, asked, Plan.sends_single]

end Sends

-- From here on a contract is opened by the lemmas above only, so that no unification runs a task.
attribute [irreducible] Sends

end Sql
end RecordDirectory
