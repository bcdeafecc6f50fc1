import RecordDirectory.Error
import RecordDirectory.Store.Call

/-!
Tasks: computations that ask a store.

A task either is done or asks one call and goes on with the reply. It does not know what kind of store
answers, so every service is written once; `run` lets a store with states of any type answer the calls.
A call that the store refuses ends the task with that error, and nothing is asked after it.
-/

namespace RecordDirectory

/-- A computation that ends with an `α`, or without one. -/
inductive Task (α : Type) where
  | done (result : Except (Stop ServiceError) α)
  | ask (call : StoreCall) (next : call.Reply → Task α)

namespace Task

variable {α β σ : Type}

/-- The task that ends at once with a value. -/
protected def pure (a : α) : Task α :=
  .done (.ok a)

/-- The task that ends at once with an error. -/
def fail (error : ServiceError) : Task α :=
  .done (.error (.because error))

/-- Goes on with the value of a task. -/
protected def bind : Task α → (α → Task β) → Task β
  | .done (.ok a), next => next a
  | .done (.error stop), _ => .done (.error stop)
  | .ask call more, next => .ask call fun reply => (more reply).bind next

instance : Monad Task where
  pure := Task.pure
  bind := Task.bind

def call (c : StoreCall) : Task c.Reply :=
  .ask c fun reply => .done (.ok reply)

def validated : Except ValidationError α → Task α
  | .ok a => .done (.ok a)
  | .error error => fail (.validation error)

/-- A result of validation that may have no answer, as a task. -/
def settled : Except (Stop ValidationError) α → Task α
  | .ok a => .done (.ok a)
  | .error (.because error) => fail (.validation error)
  | .error .overflow => .done (.error .overflow)

/-- A value that has to be there, as a task. -/
def found (error : ServiceError) : Option α → Task α
  | some a => .done (.ok a)
  | none => fail error

/-- A store, by its answers: the state before a call gives the reply and the state after it. -/
abbrev Answering (σ : Type) : Type :=
  (c : StoreCall) → σ → Except StoreError c.Reply × σ

/-- Lets a store answer the calls of a task. -/
def run (answer : Answering σ) : Task α → σ → Except (Stop ServiceError) α × σ
  | .done result, s => (result, s)
  | .ask c next, s =>
    match answer c s with
    | (.ok reply, s) => run answer (next reply) s
    | (.error error, s) => (.error (.because (.store error)), s)

@[simp]
theorem run_done (answer : Answering σ) (result : Except (Stop ServiceError) α) (s : σ) :
    (Task.done result).run answer s = (result, s) :=
  rfl

theorem pure_bind (a : α) (next : α → Task β) : (Task.pure a).bind next = next a :=
  rfl

theorem bind_pure (task : Task α) : task.bind Task.pure = task := by
  induction task with
  | done result => cases result <;> rfl
  | ask c next ih => exact congrArg (Task.ask c) (funext ih)

theorem bind_assoc {γ : Type} (task : Task α) (f : α → Task β) (g : β → Task γ) :
    (task.bind f).bind g = task.bind fun a => (f a).bind g := by
  induction task with
  | done result => cases result <;> rfl
  | ask c next ih => exact congrArg (Task.ask c) (funext ih)

/-- Running a sequence is running its first part and, where that has a value, the second part from the
state that it leaves. -/
theorem run_bind (answer : Answering σ) (task : Task α) (next : α → Task β) (s : σ) :
    (task.bind next).run answer s =
      match task.run answer s with
      | (.ok a, s) => (next a).run answer s
      | (.error stop, s) => (.error stop, s) := by
  induction task generalizing s with
  | done result => cases result <;> rfl
  | ask c more ih =>
    simp only [Task.bind, run]
    split
    · exact ih _ _
    · rfl

end Task

end RecordDirectory
