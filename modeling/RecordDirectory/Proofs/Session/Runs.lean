import RecordDirectory.Proofs.Store.Effect

namespace RecordDirectory

/-!
# Invariants of runs

A property of tables holds in every state of a session if empty tables have it and every admitted call
keeps it.  Commits and rollbacks need no argument of their own: they only copy one of the two states of
the session over the other, so both are carried through the run together.
-/

/-- A code other than the default one, for the directories of fixed runs. -/
def DirectoryCode.ones : DirectoryCode where
  digits := List.replicate 32 ⟨1, by decide⟩
  length_eq := List.length_replicate

/-- A step that is no bare write of the store. -/
def Step.isGuarded : Step → Bool
  | .run operation => operation.isGuarded
  | .commit | .rollback => true

namespace Session

/-! ## Runs in parts -/

theorem steps_cons (session : Session) (step : Step) (rest : List Step) :
    session.steps (step :: rest) =
      ((session.step step).1 :: ((session.step step).2.steps rest).1, ((session.step step).2.steps rest).2) :=
  rfl

/-- A run goes on from where its first part has ended. -/
theorem steps_append (session : Session) (first second : List Step) :
    session.steps (first ++ second) =
      ((session.steps first).1 ++ ((session.steps first).2.steps second).1,
        ((session.steps first).2.steps second).2) := by
  induction first generalizing session with
  | nil => rfl
  | cons step rest inductionHypothesis =>
      rw [List.cons_append, steps_cons, inductionHypothesis, steps_cons]
      rfl

/-- Every step has an outcome. -/
theorem length_steps (session : Session) (steps : List Step) :
    (session.steps steps).1.length = steps.length := by
  induction steps generalizing session with
  | nil => rfl
  | cons step rest inductionHypothesis => exact congrArg Nat.succ (inductionHypothesis _)

/-- The outcomes of the first part come first. -/
theorem take_steps (session : Session) (first second : List Step) :
    (session.steps (first ++ second)).1.take first.length = (session.steps first).1 := by
  rw [steps_append]
  exact List.take_left' (length_steps ..)

theorem drop_steps (session : Session) (first second : List Step) :
    (session.steps (first ++ second)).1.drop first.length = ((session.steps first).2.steps second).1 := by
  rw [steps_append]
  exact List.drop_left' (length_steps ..)

/-! ## What every step keeps -/

/-- Both states of a session have a property. -/
structure Satisfies (property : Tables → Prop) (session : Session) : Prop where
  committed : property session.committed
  working : property session.working

variable {property : Tables → Prop} {session : Session}

theorem Satisfies.step
    (kept : ∀ t (operation : Operation), operation.isGuarded = true → property t →
      property (operation.task.run Tables.answer t).2)
    (satisfies : session.Satisfies property) {step : Step} (guarded : step.isGuarded = true) :
    (session.step step).2.Satisfies property := by
  cases step with
  | run operation => exact ⟨satisfies.committed, kept _ _ guarded satisfies.working⟩
  | commit => exact ⟨satisfies.working, satisfies.working⟩
  | rollback => exact ⟨satisfies.committed, satisfies.committed⟩

theorem Satisfies.steps
    (kept : ∀ t (operation : Operation), operation.isGuarded = true → property t →
      property (operation.task.run Tables.answer t).2)
    (satisfies : session.Satisfies property) {steps : List Step}
    (guarded : ∀ step ∈ steps, step.isGuarded = true) :
    (session.steps steps).2.Satisfies property := by
  induction steps generalizing session with
  | nil => exact satisfies
  | cons step rest inductionHypothesis =>
      exact inductionHypothesis (satisfies.step kept (guarded step List.mem_cons_self))
        fun later listed => guarded later (List.mem_cons_of_mem _ listed)

/-- An invariant of the admitted calls holds in both states after every guarded run. -/
theorem satisfies_of_admitted (empty : property .empty)
    (kept : ∀ t c, t.Sound → property t → t.Admits c → property (Tables.answer c t).2)
    {steps : List Step} (guarded : ∀ step ∈ steps, step.isGuarded = true) :
    (start.steps steps).2.Satisfies fun t => t.Sound ∧ property t := by
  have atStart : start.Satisfies fun t => t.Sound ∧ property t :=
    ⟨⟨Tables.sound_empty, empty⟩, ⟨Tables.sound_empty, empty⟩⟩
  refine atStart.steps (fun t operation operationGuarded holds => ?_) guarded
  have effect := Operation.effect_run holds.1 operationGuarded
  refine effect.preserves (fun after => after.Sound ∧ property after) (fun c admitted => ?_) holds
  exact ⟨holds.1.answer c, kept t c holds.1 holds.2 admitted⟩

end Session
end RecordDirectory
