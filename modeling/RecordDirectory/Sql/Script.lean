import RecordDirectory.Operation
import RecordDirectory.Sql.Store

/-!
Databases that follow a script.

A scripted database gives prepared results one after the other and keeps a list of the statements it
was sent. When the script has ended, a statement has no columns, no rows and touches nothing.
-/

namespace RecordDirectory
namespace Sql

/-- The results that are left and the statements that were sent. -/
structure Script where
  results : List (Except Failure ResultSet)
  sent : List Query

/-- The result of a statement that the script does not answer. -/
def silent : ResultSet where
  columns := []
  rows := []
  affected := 0

def scripted : Database Script :=
  fun query script =>
    let sent := script.sent ++ [query]
    match script.results with
    | [] => (.ok silent, ⟨[], sent⟩)
    | result :: rest => (result, ⟨rest, sent⟩)

/-- What happens in a step: the statements that are sent, and how the step ends. -/
structure Trace where
  statements : List Query
  outcome : Except (Stop ServiceError) Answer

/-- Carries out an operation with the given results. -/
def runScripted (operation : Operation) (results : List (Except Failure ResultSet)) : Trace :=
  let (outcome, script) := operation.task.run (answer scripted) ⟨results, []⟩
  ⟨script.sent, outcome⟩

def commitScripted (results : List (Except Failure ResultSet)) : Trace :=
  let (outcome, script) := commitPlan.run scripted ⟨results, []⟩
  let outcome := match outcome with
    | .ok () => .ok .nothing
    | .error error => .error (.because (.store error))
  ⟨script.sent, outcome⟩

end Sql
end RecordDirectory
