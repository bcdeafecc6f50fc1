import RecordDirectory.Operation
import RecordDirectory.Store.Tables

/-!
Sessions on the store in memory.

A session works on a copy of the committed tables. Committing makes the copy the committed state,
rolling back forgets it, and either way the next transaction starts from what is committed.
-/

namespace RecordDirectory

/-- The committed tables and those of the open transaction. -/
structure Session where
  committed : Tables
  working : Tables
deriving DecidableEq, Inhabited

/-- One step of a session. -/
inductive Step where
  | run (operation : Operation)
  | commit
  | rollback

/-- How a step ends: with an answer, an error, or none. -/
abbrev Outcome : Type :=
  Except (Stop ServiceError) Answer

namespace Session

def start : Session where
  committed := .empty
  working := .empty

def step (session : Session) : Step → Outcome × Session
  | .run operation =>
    let (outcome, working) := operation.task.run Tables.answer session.working
    (outcome, { session with working := working })
  | .commit => (.ok .nothing, { session with committed := session.working })
  | .rollback => (.ok .nothing, { session with working := session.committed })

/-- Takes several steps and gives all outcomes. -/
def steps (session : Session) : List Step → List Outcome × Session
  | [] => ([], session)
  | s :: rest =>
    let (outcome, session) := session.step s
    let (outcomes, session) := session.steps rest
    (outcome :: outcomes, session)

end Session

end RecordDirectory
