import Mathlib.Data.List.DropRight
import RecordDirectory.Proofs.Session.History

namespace RecordDirectory

/-!
# What a rollback erases, and what it does not

A rollback ends a transaction that reaches back to the last commit or rollback, or to the start of the
session.  It erases all of it: a session from which this transaction has been cut out, together with the
rollback, gives the same outcomes for the steps that are left, and ends in the same state.  The codes of new
directories are part of the steps here, and so they are the same in both sessions.

A rollback erases nothing else.  Whatever follows a commit, the tables are those of the commit, changed by
the later operations that still count.  No condition is put on the steps, so that this is said of every
moment behind the commit and of every order of later commits and rollbacks.
-/

/-- A step within a transaction. -/
def Step.isRun : Step → Bool
  | .run _ => true
  | .commit | .rollback => false

/-- The tables that operations lead to from given ones.  The latest operation comes first. -/
def tablesSince (t : Tables) : List Operation → Tables
  | [] => t
  | operation :: earlier => (operation.task.run Tables.answer (tablesSince t earlier)).2

namespace History

/-- The session of a history that has started with given tables, all of them committed. -/
def sessionSince (history : History) (t : Tables) : Session where
  committed := tablesSince t history.committed
  working := tablesSince t history.working

theorem sessionSince_start (t : Tables) : start.sessionSince t = ⟨t, t⟩ :=
  rfl

theorem sessionSince_step (history : History) (t : Tables) (step : Step) :
    (history.step step).sessionSince t = ((history.sessionSince t).step step).2 := by
  cases step <;> rfl

theorem sessionSince_steps (history : History) (t : Tables) (steps : List Step) :
    (history.steps steps).sessionSince t = ((history.sessionSince t).steps steps).2 := by
  induction steps generalizing history with
  | nil => rfl
  | cons step rest inductionHypothesis =>
      rw [History.steps, inductionHypothesis, sessionSince_step]
      rfl

end History

namespace Session

/-- Where the last transaction is left out, everything is committed, and nothing else has been before. -/
theorem steps_rdropWhile_isRun (steps : List Step) :
    (start.steps (steps.rdropWhile Step.isRun)).2 =
      ⟨(start.steps steps).2.committed, (start.steps steps).2.committed⟩ := by
  induction steps using List.reverseRecOn with
  | nil => rfl
  | append_singleton earlier step inductionHypothesis =>
      cases step with
      | run operation =>
          rw [List.rdropWhile_concat_pos _ _ _ rfl, inductionHypothesis, steps_append]
          rfl
      | commit | rollback =>
          rw [List.rdropWhile_concat_neg _ _ _ Bool.false_ne_true, steps_append]
          rfl

/-- A rollback leads back to where the last transaction has started. -/
theorem steps_rollback (earlier : List Step) :
    (start.steps (earlier ++ [.rollback])).2 = (start.steps (earlier.rdropWhile Step.isRun)).2 := by
  rw [steps_append, steps_rdropWhile_isRun]
  rfl

/-- A transaction that is rolled back can be cut out of a session without a difference to any other step.
What a commit keeps is never cut out: all that follows is built on it. -/
theorem steps_eq_of_rolled_back_run (earlier later : List Step) :
    let before := earlier.rdropWhile Step.isRun
    let full := start.steps (earlier ++ .rollback :: later)
    let committed := (start.steps earlier).2.working
    start.steps (before ++ later) =
        (full.1.take before.length ++ full.1.drop (earlier.length + 1), full.2) ∧
      (start.steps (earlier ++ .commit :: later)).2 =
        (History.start.steps later).sessionSince committed := by
  intro before full committed
  constructor
  · rcases List.rdropWhile_prefix Step.isRun earlier with ⟨transaction, split⟩
    have outcomesBefore : full.1.take before.length = (start.steps before).1 := by
      have cut : full = start.steps (before ++ (transaction ++ .rollback :: later)) := by
        rw [← List.append_assoc, split]
      rw [cut, take_steps]
    have cut : full = start.steps ((earlier ++ [.rollback]) ++ later) := by
      rw [← List.append_cons]
    have outcomesLater : full.1.drop (earlier.length + 1) = ((start.steps before).2.steps later).1 := by
      have counted : earlier.length + 1 = (earlier ++ [Step.rollback]).length := by
        rw [List.length_append, List.length_singleton]
      rw [cut, counted, drop_steps, steps_rollback]
    have ending : full.2 = ((start.steps before).2.steps later).2 := by
      rw [cut, steps_append, steps_rollback]
    rw [steps_append, outcomesBefore, outcomesLater, ending]
  · rw [History.sessionSince_steps, History.sessionSince_start, steps_append]
    rfl

end Session
end RecordDirectory
