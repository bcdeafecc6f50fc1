import RecordDirectory.Store.Tables

namespace RecordDirectory

/-- A stop for a translated cause. -/
def Stop.map {ε δ : Type} (f : ε → δ) : Stop ε → Stop δ
  | .because cause => .because (f cause)
  | .overflow => .overflow

/-- No condition on calls, for contracts that are about outcomes alone. -/
def anyCall (_ : Tables) (_ : StoreCall) : Prop := True

namespace Task

/-!
# Contracts of tasks on tables

A task is judged by two things at once: the calls that it asks of the tables, each at the tables it
meets, and the way it ends.  Keeping the calls in the contract is what later lets another store take
the place of the tables, since two stores need to agree only on calls that are really asked.

`Meets` is computed from the task, so a contract of a sequence is a contract of its first part whose
ending is a contract of the rest (`meets_bind`).  Nothing is lost by this: the equivalences below hold
in both directions.
-/

variable {α β : Type} {admitted : Tables → StoreCall → Prop}

/-- Every call is admitted at the tables it meets, and the task ends as `ends` says. -/
def Meets (admitted : Tables → StoreCall → Prop)
    (ends : Except (Stop ServiceError) α → Tables → Prop) : Task α → Tables → Prop
  | .done result, t => ends result t
  | .ask c next, t =>
    admitted t c ∧
      match Tables.answer c t with
      | (.ok reply, after) => Meets admitted ends (next reply) after
      | (.error error, after) => ends (.error (.because (.store error))) after

/-- The ending of the first part of a sequence: a value starts the rest, and an error ends it. -/
def Continues (admitted : Tables → StoreCall → Prop)
    (ends : Except (Stop ServiceError) β → Tables → Prop) (next : α → Task β) :
    Except (Stop ServiceError) α → Tables → Prop
  | .ok a, t => Meets admitted ends (next a) t
  | .error stop, t => ends (.error stop) t

theorem continues_ok (ends : Except (Stop ServiceError) β → Tables → Prop) (next : α → Task β) (a : α)
    (t : Tables) : Continues admitted ends next (.ok a) t ↔ Meets admitted ends (next a) t :=
  Iff.rfl

theorem continues_error (ends : Except (Stop ServiceError) β → Tables → Prop) (next : α → Task β)
    (stop : Stop ServiceError) (t : Tables) :
    Continues admitted ends next (.error stop) t ↔ ends (.error stop) t :=
  Iff.rfl

theorem meets_bind (task : Task α) (next : α → Task β)
    (ends : Except (Stop ServiceError) β → Tables → Prop) (t : Tables) :
    Meets admitted ends (task >>= next) t ↔ Meets admitted (Continues admitted ends next) task t := by
  change Meets admitted ends (task.bind next) t ↔ _
  induction task generalizing t with
  | done result => cases result <;> exact Iff.rfl
  | ask c more inductionHypothesis =>
      simp only [Task.bind, Meets]
      refine and_congr_right fun _ => ?_
      split
      · exact inductionHypothesis _ _
      · exact Iff.rfl

theorem meets_map (f : α → β) (task : Task α)
    (ends : Except (Stop ServiceError) β → Tables → Prop) (t : Tables) :
    Meets admitted ends (f <$> task) t ↔
      Meets admitted (fun result => ends (result.map f)) task t := by
  change Meets admitted ends (task >>= fun a => pure (f a)) t ↔ _
  rw [meets_bind]
  have same : Continues admitted ends (fun a => (pure (f a) : Task β)) =
      fun result => ends (result.map f) := by
    funext result after
    cases result <;> rfl
  rw [same]

theorem meets_pure (a : α) (ends : Except (Stop ServiceError) α → Tables → Prop) (t : Tables) :
    Meets admitted ends (pure a) t ↔ ends (.ok a) t :=
  Iff.rfl

theorem meets_fail (error : ServiceError) (ends : Except (Stop ServiceError) α → Tables → Prop)
    (t : Tables) :
    Meets admitted ends (fail error) t ↔ ends (.error (.because error)) t :=
  Iff.rfl

theorem meets_validated (result : Except ValidationError α)
    (ends : Except (Stop ServiceError) α → Tables → Prop) (t : Tables) :
    Meets admitted ends (validated result) t ↔
      ends (result.mapError fun error => .because (.validation error)) t := by
  cases result <;> exact Iff.rfl

theorem meets_settled (result : Except (Stop ValidationError) α)
    (ends : Except (Stop ServiceError) α → Tables → Prop) (t : Tables) :
    Meets admitted ends (settled result) t ↔ ends (result.mapError (Stop.map .validation)) t := by
  rcases result with (error | _) | a <;> exact Iff.rfl

theorem meets_call (c : StoreCall) (ends : Except (Stop ServiceError) c.Reply → Tables → Prop)
    (t : Tables) :
    Meets admitted ends (call c) t ↔
      admitted t c ∧ ends ((Tables.answer c t).1.mapError fun error => .because (.store error))
        (Tables.answer c t).2 := by
  simp only [Meets, call]
  refine and_congr_right fun _ => ?_
  rcases Tables.answer c t with ⟨result, after⟩
  cases result <;> exact Iff.rfl

theorem meets_call_ok {c : StoreCall} {reply : c.Reply} {t after : Tables}
    (answered : Tables.answer c t = (.ok reply, after))
    (ends : Except (Stop ServiceError) c.Reply → Tables → Prop) :
    Meets admitted ends (call c) t ↔ admitted t c ∧ ends (.ok reply) after := by
  rw [meets_call, answered]
  exact Iff.rfl

theorem meets_call_error {c : StoreCall} {error : StoreError} {t after : Tables}
    (answered : Tables.answer c t = (.error error, after))
    (ends : Except (Stop ServiceError) c.Reply → Tables → Prop) :
    Meets admitted ends (call c) t ↔ admitted t c ∧ ends (.error (.because (.store error))) after := by
  rw [meets_call, answered]
  exact Iff.rfl

/-- A task that asks no write, whatever it is replied. -/
def Reads : Task α → Prop
  | .done _ => True
  | .ask c next => c.isWrite = false ∧ ∀ reply, (next reply).Reads

theorem reads_bind {task : Task α} {next : α → Task β} (first : task.Reads) (rest : ∀ a, (next a).Reads) :
    (task >>= next).Reads := by
  change (task.bind next).Reads
  induction task with
  | done result =>
      cases result with
      | ok a => exact rest a
      | error stop => trivial
  | ask c more inductionHypothesis =>
      simp only [Reads] at first
      exact ⟨first.1, fun reply => inductionHypothesis reply (first.2 reply)⟩

theorem reads_map (f : α → β) {task : Task α} (first : task.Reads) : (f <$> task).Reads :=
  reads_bind first fun _ => trivial

theorem reads_call {c : StoreCall} (read : c.isWrite = false) : (call c).Reads :=
  ⟨read, fun _ => trivial⟩

theorem reads_validated (result : Except ValidationError α) : (validated result).Reads := by
  cases result <;> trivial

theorem reads_found (error : ServiceError) (value : Option α) : (found error value).Reads := by
  cases value <;> trivial

/-- A task that asks no write leaves the tables as they are, so its contract is about results only. -/
theorem meets_of_reads {task : Task α} (first : task.Reads) {t : Tables}
    (reads : ∀ c, c.isWrite = false → admitted t c)
    {ends : Except (Stop ServiceError) α → Tables → Prop} (each : ∀ result, ends result t) :
    Meets admitted ends task t := by
  induction task with
  | done result => exact each result
  | ask c next inductionHypothesis =>
      simp only [Reads] at first
      simp only [Meets]
      refine ⟨reads c first.1, ?_⟩
      have kept := Tables.answer_of_not_isWrite first.1 t
      rcases answered : Tables.answer c t with ⟨result, after⟩
      rw [answered] at kept
      simp only at kept
      subst kept
      cases result with
      | ok reply => exact inductionHypothesis reply (first.2 reply)
      | error error => exact each _

/-- What a contract promises of the run itself. -/
theorem Meets.run {ends : Except (Stop ServiceError) α → Tables → Prop} {task : Task α} {t : Tables}
    (meets : Meets admitted ends task t) :
    ends (task.run Tables.answer t).1 (task.run Tables.answer t).2 := by
  induction task generalizing t with
  | done result => exact meets
  | ask c next inductionHypothesis =>
      simp only [Meets] at meets
      rcases meets with ⟨_, rest⟩
      simp only [Task.run]
      rcases answered : Tables.answer c t with ⟨result, after⟩
      rw [answered] at rest
      cases result with
      | ok reply => exact inductionHypothesis reply rest
      | error error => exact rest

/-- Another store that agrees with the tables on every admitted call gives the same result, and the two
stores are related again afterwards. -/
theorem Meets.run_eq {σ : Type} {other : Answering σ} {related : Tables → σ → Prop}
    (agrees : ∀ t s c, related t s → admitted t c →
      (other c s).1 = (Tables.answer c t).1 ∧ related (Tables.answer c t).2 (other c s).2)
    {ends : Except (Stop ServiceError) α → Tables → Prop} {task : Task α} {t : Tables}
    (meets : Meets admitted ends task t) {s : σ} (start : related t s) :
    (task.run other s).1 = (task.run Tables.answer t).1 ∧
      related (task.run Tables.answer t).2 (task.run other s).2 := by
  induction task generalizing t s with
  | done result => exact ⟨rfl, start⟩
  | ask c next inductionHypothesis =>
      simp only [Meets] at meets
      rcases meets with ⟨asked, rest⟩
      rcases agrees t s c start asked with ⟨sameReply, relatedAfter⟩
      simp only [Task.run]
      rcases answered : Tables.answer c t with ⟨result, after⟩
      rcases otherAnswered : other c s with ⟨otherResult, otherAfter⟩
      rw [answered] at rest relatedAfter sameReply
      rw [otherAnswered] at relatedAfter sameReply
      dsimp only at sameReply relatedAfter
      subst sameReply
      cases otherResult with
      | ok reply => exact inductionHypothesis reply rest relatedAfter
      | error error => exact ⟨rfl, relatedAfter⟩

-- From here on a contract is opened by the lemmas above only, so that no unification runs a task.
attribute [irreducible] Meets

end Task
end RecordDirectory
