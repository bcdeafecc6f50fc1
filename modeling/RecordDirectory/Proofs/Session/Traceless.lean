import RecordDirectory.Proofs.Session.Identities

namespace RecordDirectory

/-!
# Steps without a trace

A step that only reads, that fails, or that answers that there was nothing to change has changed nothing.
This is said of the whole state, the counters of ids included, so that a creation that was refused late does
not show in the id of the next one.  Bare writes of the store are admitted here as well.

Such a step can therefore be left out of a session.  The other steps end as they did, whichever and however
many of the idle ones are left out (`trace_eq_of_thinned_run`).
-/

/-- A step that reads, fails or has nothing to change, as its outcome tells. -/
def Step.isIdle : Step → Outcome → Bool
  | .run _, .error _ | .run _, .ok (.changed false) => true
  | .run operation, .ok _ => !operation.isWrite
  | .commit, _ | .rollback, _ => false

theorem Step.isIdle_ok_iff {operation : Operation} {answer : Answer} :
    (Step.run operation).isIdle (.ok answer) = true ↔
      answer = .changed false ∨ operation.isWrite = false := by
  rcases answer with _ | _ | _ | _ | _ | _ | _ | _ | _ | _ | changed
  case changed => cases changed <;> simp [isIdle]
  all_goals simp [isIdle]

/-- Some of the members of which a condition holds have been left out of a list. -/
inductive Thinned {α : Type} (omitted : α → Prop) : List α → List α → Prop
  | nil : Thinned omitted [] []
  | keep {a : α} {all kept : List α} (rest : Thinned omitted all kept) :
      Thinned omitted (a :: all) (a :: kept)
  | drop {a : α} {all kept : List α} (idle : omitted a) (rest : Thinned omitted all kept) :
      Thinned omitted (a :: all) kept

/-- All of them can be left out. -/
theorem thinned_filter {α : Type} (omitted : α → Bool) (all : List α) :
    Thinned (fun a => omitted a = true) all (all.filter fun a => !omitted a) := by
  induction all with
  | nil => exact .nil
  | cons a rest inductionHypothesis =>
      cases idle : omitted a with
      | true =>
          rw [List.filter_cons_of_neg (by simp [idle])]
          exact .drop idle inductionHypothesis
      | false =>
          rw [List.filter_cons_of_pos (by simp [idle])]
          exact .keep inductionHypothesis

namespace Tables

variable {t : Tables}

/-- A call that is refused, or has nothing to change, leaves the tables as they are. -/
theorem answer_of_refused (t : Tables) {c : StoreCall}
    (refused : ∀ reply, (Tables.answer c t).1 = .ok reply → c.toAnswer reply = .changed false) :
    (Tables.answer c t).2 = t := by
  cases c with
  | createDirectory code draft =>
      simp only [Tables.answer, Tables.createDirectory] at refused ⊢
      split
      · rfl
      · next untaken =>
        rw [if_neg untaken] at refused
        cases refused _ rfl
  | createRecord owner values =>
      simp only [Tables.answer, Tables.createRecord] at refused ⊢
      split
      · next owned =>
        rw [if_pos owned] at refused
        cases refused _ rfl
      · rfl
  | updateDirectory changed =>
      simp only [Tables.answer, Tables.updateDirectory] at refused ⊢
      cases found : t.directories.get? changed.id with
      | none => rfl
      | some stored =>
          rw [found] at refused
          cases refused _ rfl
  | updateRecord id values =>
      simp only [Tables.answer, Tables.updateRecord] at refused ⊢
      cases found : t.records.get? id with
      | none => rfl
      | some stored =>
          rw [found] at refused
          cases refused _ rfl
  | deleteRecord id =>
      simp only [Tables.answer, Tables.deleteRecord] at refused ⊢
      cases found : t.records.contains id with
      | false => rfl
      | true =>
          rw [found] at refused
          cases refused _ rfl
  | existingDirectories | recordOwners | getDirectory | listDirectories | getRecord | queryRecords => rfl

/-- An idle operation leaves the tables as they are. -/
theorem Sound.run_of_isIdle (sound : t.Sound) {operation : Operation}
    (idle : (Step.run operation).isIdle (operation.task.run Tables.answer t).1 = true) :
    (operation.task.run Tables.answer t).2 = t := by
  cases guarded : operation.isGuarded with
  | true =>
      have effect := Operation.effect_run sound guarded
      generalize operation.task.run Tables.answer t = ending at idle effect ⊢
      rcases ending with ⟨outcome, after⟩
      cases effect with
      | kept => rfl
      | directoryCreated | directoryUpdated | recordCreated | recordUpdated | recordDeleted => cases idle
  | false =>
      cases operation with
      | store c =>
          rw [run_store] at idle ⊢
          refine t.answer_of_refused fun reply answered => ?_
          rw [answered] at idle
          refine (Step.isIdle_ok_iff.mp idle).resolve_right fun reads => ?_
          have unguarded : c.isWrite = true := by simpa [Operation.isGuarded] using guarded
          exact Bool.false_ne_true (reads.symm.trans unguarded)
      | _ => cases guarded

end Tables

namespace Session

variable {session : Session}

/-- Steps with their outcomes. -/
def trace (session : Session) (steps : List Step) : List (Step × Outcome) :=
  steps.zip (session.steps steps).1

theorem trace_cons (session : Session) (step : Step) (rest : List Step) :
    session.trace (step :: rest) = (step, (session.step step).1) :: (session.step step).2.trace rest :=
  rfl

/-- An idle step leaves a session as it is. -/
theorem Sound.step_of_isIdle (sound : session.Sound) {step : Step}
    (idle : step.isIdle (session.step step).1 = true) : (session.step step).2 = session := by
  cases step with
  | run operation => exact congrArg (Session.mk session.committed) (sound.working.run_of_isIdle idle)
  | commit | rollback => cases idle

/-- A run without some of its idle steps is what is left of the run. -/
theorem Sound.trace_of_thinned (sound : session.Sound) {steps : List Step} {kept : List (Step × Outcome)}
    (thinned : Thinned (fun entry => entry.1.isIdle entry.2 = true) (session.trace steps) kept) :
    session.trace (kept.map Prod.fst) = kept ∧
      (session.steps (kept.map Prod.fst)).2 = (session.steps steps).2 := by
  induction steps generalizing session kept with
  | nil =>
      cases thinned
      exact ⟨rfl, rfl⟩
  | cons step rest inductionHypothesis =>
      rw [trace_cons] at thinned
      cases thinned with
      | keep thinnedRest =>
          rcases inductionHypothesis (sound.step step) thinnedRest with ⟨sameTrace, sameEnd⟩
          rw [List.map_cons, trace_cons, sameTrace]
          exact ⟨rfl, sameEnd⟩
      | drop idle thinnedRest =>
          have unchanged : (session.step step).2 = session := sound.step_of_isIdle idle
          rw [unchanged] at thinnedRest
          rcases inductionHypothesis sound thinnedRest with ⟨sameTrace, sameEnd⟩
          refine ⟨sameTrace, sameEnd.trans ?_⟩
          rw [steps_cons, unchanged]

/-- After any run at all, an idle step leaves the session as it is.  From there on any choice of idle steps
can be left out of the steps to come: each of the others ends as it did, and so does the session. -/
theorem trace_eq_of_thinned_run (before steps : List Step) :
    let session := (start.steps before).2
    (∀ step, step.isIdle (session.step step).1 = true → (session.step step).2 = session) ∧
      ∀ kept, Thinned (fun entry => entry.1.isIdle entry.2 = true) (session.trace steps) kept →
        session.trace (kept.map Prod.fst) = kept ∧
          (session.steps (kept.map Prod.fst)).2 = (session.steps steps).2 := by
  have sound := sound_start.steps before
  exact ⟨fun _ idle => sound.step_of_isIdle idle, fun _ thinned => sound.trace_of_thinned thinned⟩

/-- Reads and refusals of all kinds.  A code that is taken comes before a new directory, and a record with a
dangling reference before a new record. -/
def refusedSteps : List Step :=
  [.run (.createDirectory default ⟨"Person", []⟩),
    .run (.createDirectory default ⟨"Company", []⟩),
    .run (.createDirectory .ones ⟨"Company", [⟨"Owner", .reference, some ⟨1⟩⟩]⟩),
    .run (.checkCreation [⟨"Owner", .reference, some ⟨9⟩⟩]),
    .run (.createRecord ⟨2⟩ (.ofList [("Owner", .integer 1)])),
    .run (.store (.createRecord ⟨7⟩ .empty)),
    .run (.store (.updateDirectory ⟨⟨7⟩, default, "", []⟩)),
    .commit,
    .run (.createRecord ⟨1⟩ .empty),
    .run (.deleteRecord ⟨9⟩),
    .run .listDirectories,
    .rollback,
    .run (.createRecord ⟨1⟩ .empty)]

/-- Of these steps only the creations that succeed are left, and what ends a transaction. -/
theorem trace_eq_of_refused_run :
    let kept := (start.trace refusedSteps).filter fun entry => !entry.1.isIdle entry.2
    kept.map Prod.snd =
        [.ok (.directory ⟨⟨1⟩, default, "Person", []⟩),
          .ok (.directory ⟨⟨2⟩, .ones, "Company", [⟨"Owner", .reference, some ⟨1⟩⟩]⟩), .ok .nothing,
          .ok (.record ⟨⟨1⟩, ⟨1⟩, .empty⟩), .ok .nothing, .ok (.record ⟨⟨1⟩, ⟨1⟩, .empty⟩)] ∧
      start.trace (kept.map Prod.fst) = kept ∧
        (start.steps (kept.map Prod.fst)).2 = (start.steps refusedSteps).2 :=
  ⟨by decide +kernel, (trace_eq_of_thinned_run [] refusedSteps).2 _
    (thinned_filter (fun entry : Step × Outcome => entry.1.isIdle entry.2) _)⟩

end Session
end RecordDirectory
