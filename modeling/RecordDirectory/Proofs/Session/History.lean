import RecordDirectory.Proofs.Session.Schema

namespace RecordDirectory

/-!
# Surviving operations

A rollback takes operations back, so what a state has seen is not what a session was asked.  A history
keeps, for each of the two states of a session, the operations that still count, and running these on
empty tables gives the state again (`History.session_steps`).

A history also tells under which fields a record was written last.  The directory of the record may have
been given other fields since, and the record is not looked at again when that happens.
-/

/-- The tables that operations lead to.  The latest operation comes first. -/
def tablesAfter : List Operation → Tables
  | [] => .empty
  | operation :: earlier => (operation.task.run Tables.answer (tablesAfter earlier)).2

def outcomeAfter (operation : Operation) (earlier : List Operation) : Outcome :=
  (operation.task.run Tables.answer (tablesAfter earlier)).1

/-- The fields that the directory of a record has, when an operation that meets these tables creates the
record or changes it. -/
def writtenFields? (t : Tables) (id : RecordId) : Operation → Outcome → Option (List FieldDefinition)
  | .createRecord _ _, .ok (.record record) | .updateRecord _ _, .ok (.record record) =>
    if record.id = id then (t.directories.get? record.directory).map Directory.fields else none
  | _, _ => none

/-- The fields that the directory of a record had when the record was last created or changed. -/
def lastFields? (id : RecordId) : List Operation → Option (List FieldDefinition)
  | [] => none
  | operation :: earlier =>
    writtenFields? (tablesAfter earlier) id operation (outcomeAfter operation earlier) <|>
      lastFields? id earlier

/-- The operations behind what is committed and behind the open transaction. -/
structure History where
  committed : List Operation
  working : List Operation

namespace History

def start : History where
  committed := []
  working := []

/-- Takes one step along with a session. -/
def step (history : History) : Step → History
  | .run operation => { history with working := operation :: history.working }
  | .commit => { history with committed := history.working }
  | .rollback => { history with working := history.committed }

def steps (history : History) : List Step → History
  | [] => history
  | s :: rest => (history.step s).steps rest

def session (history : History) : Session where
  committed := tablesAfter history.committed
  working := tablesAfter history.working

theorem session_step (history : History) (step : Step) :
    (history.step step).session = (history.session.step step).2 := by
  cases step <;> rfl

theorem session_steps (history : History) (steps : List Step) :
    (history.steps steps).session = (history.session.steps steps).2 := by
  induction steps generalizing history with
  | nil => rfl
  | cons step rest inductionHypothesis =>
      rw [History.steps, inductionHypothesis, session_step]
      rfl

/-- Of guarded steps, only guarded operations survive. -/
structure Guarded (history : History) : Prop where
  committed : ∀ operation ∈ history.committed, operation.isGuarded = true
  working : ∀ operation ∈ history.working, operation.isGuarded = true

theorem Guarded.step {history : History} (guarded : history.Guarded) {step : Step}
    (stepGuarded : step.isGuarded = true) : (history.step step).Guarded := by
  cases step with
  | run operation => exact ⟨guarded.committed, List.forall_mem_cons.mpr ⟨stepGuarded, guarded.working⟩⟩
  | commit => exact ⟨guarded.working, guarded.working⟩
  | rollback => exact ⟨guarded.committed, guarded.committed⟩

theorem Guarded.steps {history : History} (guarded : history.Guarded) {steps : List Step}
    (stepsGuarded : ∀ step ∈ steps, step.isGuarded = true) : (history.steps steps).Guarded := by
  induction steps generalizing history with
  | nil => exact guarded
  | cons step rest inductionHypothesis =>
      rcases List.forall_mem_cons.mp stepsGuarded with ⟨first, later⟩
      exact inductionHypothesis (guarded.step first) later

theorem guarded_start : start.Guarded :=
  ⟨fun _ listed => (List.not_mem_nil listed).elim, fun _ listed => (List.not_mem_nil listed).elim⟩

end History
end RecordDirectory
