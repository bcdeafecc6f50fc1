import RecordDirectory.Proofs.Session.Runs
import RecordDirectory.Proofs.Sql.Agreement
import RecordDirectory.Proofs.Sql.Reading

namespace RecordDirectory

open RecordDirectory.Task

/-!
# The database refines the store in memory

A run of guarded steps and commits on empty tables ends the same way at every step, whichever of the two
stores is asked, and the tables of the database mirror those in memory at the end of the run.  The order in
which the database gives rows that it need not sort makes no difference, and neither does it whether the
database is told the statements or only their texts.

A run with a rollback is left out, since a sequence does not go back when a transaction does: the next id
would be another one in memory.  A code that is drawn twice is left out, too, since the failure of its
statement aborts the transaction of the database, while the store in memory goes on.  Ids are signed words
of 64 bits, and a run that needs more of them is none of either store.
-/

/-- A step that both stores take alike: no bare write, and no rollback. -/
def Step.isServed : Step → Bool
  | .run operation => operation.isGuarded
  | .commit => true
  | .rollback => false

/-- The code that was drawn for a step. -/
def Step.code? : Step → Option DirectoryCode
  | .run operation => operation.code?
  | .commit | .rollback => none

/-! ## What the later steps need of the earlier ones -/

namespace Tables

variable {t after : Tables}

theorem IdsFit.of_counts (fits : after.IdsFit) (counts : Counts t after) : t.IdsFit :=
  ⟨Int.lt_of_le_of_lt counts.directory fits.directory, Int.lt_of_le_of_lt counts.record fits.record⟩

/-- No code is taken that was not taken before. -/
theorem codeTaken_of_descends (kept : Descends t after) {code : DirectoryCode}
    (taken : after.codeTaken code = true) : t.codeTaken code = true := by
  rcases codeTaken_iff.mp taken with ⟨id, later, stored, named⟩
  rcases kept.directory stored with ⟨earlier, found, _, sameCode⟩
  exact codeTaken_iff.mpr ⟨id, earlier, found, sameCode.trans named⟩

theorem codeTaken_of_directories_eq (same : after.directories = t.directories) {code : DirectoryCode}
    (taken : after.codeTaken code = true) : t.codeTaken code = true := by
  unfold codeTaken at taken ⊢
  rwa [same] at taken

end Tables

namespace Effect

variable {t after : Tables} {operation : Operation} {outcome : Outcome}

theorem counts (effect : Effect t operation outcome after) : Tables.Counts t after :=
  effect.preserves (Tables.Counts t) (fun c _ => .answer t c) (.refl t)

/-- The only code that an operation takes is the one that was drawn for it. -/
theorem codeTaken (effect : Effect t operation outcome after) {code : DirectoryCode}
    (taken : after.codeTaken code = true) : t.codeTaken code = true ∨ operation.code? = some code := by
  cases effect with
  | kept => exact .inl taken
  | @directoryCreated drawn draft checked passed untaken admitted =>
      rcases Tables.codeTaken_iff.mp taken with ⟨id, directory, stored, named⟩
      simp only [Tables.createDirectory, untaken, Bool.false_eq_true, if_false, Keyed.get?_insert] at stored
      split at stored
      · cases stored
        exact .inr (congrArg some named)
      · exact .inl (Tables.codeTaken_iff.mpr ⟨id, directory, stored, named⟩)
  | directoryUpdated => exact .inl (Tables.codeTaken_of_descends (.updateDirectory t _) taken)
  | recordCreated => exact .inl (Tables.codeTaken_of_directories_eq (t.createRecord_directories _ _) taken)
  | recordUpdated => exact .inl (Tables.codeTaken_of_directories_eq (t.updateRecord_directories _ _) taken)
  | recordDeleted => exact .inl (Tables.codeTaken_of_directories_eq (t.deleteRecord_directories _) taken)

end Effect

namespace Session

variable {session : Session} {step : Step}

/-- The effect of a step on the tables of the open transaction.  A commit has none. -/
theorem effect_step (sound : session.working.Sound) (served : step.isServed = true) :
    (∃ operation, step = .run operation ∧
      Effect session.working operation (session.step step).1 (session.step step).2.working) ∨
    (step = .commit ∧ (session.step step).2.working = session.working) := by
  cases step with
  | run operation => exact .inl ⟨operation, rfl, Operation.effect_run sound served⟩
  | commit => exact .inr ⟨rfl, rfl⟩
  | rollback => cases served

theorem sound_step (sound : session.working.Sound) (served : step.isServed = true) :
    (session.step step).2.working.Sound := by
  rcases effect_step sound served with ⟨operation, _, effect⟩ | ⟨_, same⟩
  · exact effect.preserves Tables.Sound (fun c _ => sound.answer c) sound
  · exact same ▸ sound

theorem counts_step (sound : session.working.Sound) (served : step.isServed = true) :
    Tables.Counts session.working (session.step step).2.working := by
  rcases effect_step sound served with ⟨operation, _, effect⟩ | ⟨_, same⟩
  · exact effect.counts
  · rw [same]
    exact .refl _

theorem codeTaken_step (sound : session.working.Sound) (served : step.isServed = true) {code : DirectoryCode}
    (taken : (session.step step).2.working.codeTaken code = true) :
    session.working.codeTaken code = true ∨ step.code? = some code := by
  rcases effect_step sound served with ⟨operation, rfl, effect⟩ | ⟨_, same⟩
  · exact effect.codeTaken taken
  · exact .inl (same ▸ taken)

theorem counts_steps {steps : List Step} (sound : session.working.Sound)
    (served : ∀ step ∈ steps, step.isServed = true) :
    Tables.Counts session.working (session.steps steps).2.working := by
  induction steps generalizing session with
  | nil => exact .refl _
  | cons step rest inductionHypothesis =>
      rcases List.forall_mem_cons.mp served with ⟨first, later⟩
      exact (counts_step sound first).trans (inductionHypothesis (sound_step sound first) later)

end Session

/-! ## The simulation -/

namespace Sql
namespace Server

variable {server : Server} {session : Session}

/-- The database mirrors both states of a session. -/
structure Follows (server : Server) (session : Session) : Prop where
  committed : server.committed.Mirrors session.committed
  serves : server.Serves server.committed session.working

theorem follows_start : start.Follows Session.start where
  committed := ⟨.nil, .nil⟩
  serves := ⟨rfl, ⟨.nil, .nil⟩, rfl, rfl, rfl⟩

/-- One step ends the same way in both stores, and the database follows again. -/
theorem Follows.step (arrangement : Arrangement) (follows : server.Follows session)
    (sound : session.working.Sound) (fits : session.working.IdsFit) {step : Step} (served : step.isServed = true)
    (untaken : ∀ code, step.code? = some code → session.working.codeTaken code = false) :
    (server.step arrangement step).1 = (session.step step).1 ∧
      (server.step arrangement step).2.Follows (session.step step).2 := by
  cases step with
  | run operation =>
      have agrees : ∀ t s c, Serves s server.committed t → operation.Asks session.working t c →
          Agrees arrangement server.committed s t c := by
        rintro t s c serves ⟨rfl, admitted, drawn⟩
        exact serves.agrees sound fits admitted fun code draft asked => untaken code (drawn code draft asked)
      rcases (Operation.meets_task sound served).run_eq agrees follows.serves with ⟨sameOutcome, serves⟩
      refine ⟨sameOutcome, ?_, ?_⟩
      · exact serves.committed.symm ▸ follows.committed
      · exact serves.committed.symm ▸ serves
  | commit =>
      have performed : server.perform arrangement ⟨server.now, []⟩ .commit =
          (.ok ⟨[], [], 0⟩, { server with committed := server.working }) := rfl
      have answered : answer arrangement ⟨.commit, []⟩ server = _ :=
        answer_of_performed follows.serves.active performed
      simp only [Server.step, stepOver, commitPlan, Plan.single, Plan.run, answered]
      have serves := follows.serves
      exact ⟨rfl, serves.working, rfl, serves.working, serves.directory_count, serves.record_count,
        serves.active⟩
  | rollback => cases served

theorem Follows.steps (arrangement : Arrangement) {steps : List Step} (follows : server.Follows session)
    (sound : session.working.Sound) (served : ∀ step ∈ steps, step.isServed = true)
    (distinct : (steps.filterMap Step.code?).Nodup)
    (untaken : ∀ code ∈ steps.filterMap Step.code?, session.working.codeTaken code = false)
    (fits : (session.steps steps).2.working.IdsFit) :
    (server.steps arrangement steps).1 = (session.steps steps).1 ∧
      (server.steps arrangement steps).2.Follows (session.steps steps).2 := by
  induction steps generalizing server session with
  | nil => exact ⟨rfl, follows⟩
  | cons step rest inductionHypothesis =>
      rcases List.forall_mem_cons.mp served with ⟨first, later⟩
      have soundNext := Session.sound_step sound first
      have fitsNow := fits.of_counts (Session.counts_steps sound served)
      have drawn : ∀ code, step.code? = some code → code ∈ (step :: rest).filterMap Step.code? :=
        fun code named => List.mem_filterMap.mpr ⟨step, List.mem_cons_self, named⟩
      have distinctLater : (rest.filterMap Step.code?).Nodup :=
        distinct.sublist ((List.sublist_cons_self step rest).filterMap Step.code?)
      have untakenLater : ∀ code ∈ rest.filterMap Step.code?,
          (session.step step).2.working.codeTaken code = false := by
        intro code listed
        refine Bool.eq_false_iff.mpr fun taken => ?_
        rcases Session.codeTaken_step sound first taken with before | named
        · have inAll : code ∈ (step :: rest).filterMap Step.code? :=
            ((List.sublist_cons_self step rest).filterMap Step.code?).subset listed
          rw [untaken code inAll] at before
          cases before
        · rw [List.filterMap_cons_some named] at distinct
          exact (List.nodup_cons.mp distinct).1 listed
      rcases follows.step arrangement sound fitsNow first fun code named => untaken code (drawn code named)
        with ⟨sameOutcome, followsNext⟩
      rcases inductionHypothesis followsNext soundNext later distinctLater untakenLater fits with
        ⟨sameOutcomes, followsAfter⟩
      exact ⟨congrArg₂ List.cons sameOutcome sameOutcomes, followsAfter⟩

/-- Both stores end every step of a run the same way, whatever is searched and listed, and the tables of the
database mirror those in memory, the committed ones and those of the open transaction.  The texts of the
statements are enough for that. -/
theorem outcomes_eq_of_served_run (arrangement : Arrangement) {steps : List Step}
    (served : ∀ step ∈ steps, step.isServed = true) (distinct : (steps.filterMap Step.code?).Nodup)
    (fits : (Session.start.steps steps).2.working.IdsFit) :
    start.stepsOver (overText arrangement) steps = start.steps arrangement steps ∧
      (start.steps arrangement steps).1 = (Session.start.steps steps).1 ∧
      (start.steps arrangement steps).2.committed.Mirrors (Session.start.steps steps).2.committed ∧
      (start.steps arrangement steps).2.working.Mirrors (Session.start.steps steps).2.working := by
  rcases follows_start.steps arrangement Tables.sound_empty served distinct (fun _ _ => rfl) fits
    with ⟨same, follows⟩
  exact ⟨start.stepsOver_overText arrangement steps, same, follows.committed, follows.serves.working⟩

/-- Two directories, one of which refers to the other, and their records.  One record is asked for that does
not exist, and others are searched with the greatest limit there is. -/
def searchedSteps : List Step :=
  [.run (.createDirectory default ⟨"Client", [⟨"Name", .text, none⟩, ⟨"Budget", .number, none⟩]⟩),
    .run (.createDirectory .ones ⟨"Project", [⟨"Owner", .reference, some ⟨1⟩⟩]⟩),
    .run (.createRecord ⟨1⟩ (.ofList [("Name", .string " Ada "), ("Budget", .string "12.50")])),
    .run (.createRecord ⟨1⟩ (.ofList [("Name", .string "Bo"), ("Budget", .integer 7)])),
    .run (.createRecord ⟨1⟩ (.ofList [("Name", .string "Adam"), ("Budget", .string "0.1")])),
    .run (.createRecord ⟨2⟩ (.ofList [("Owner", .integer 1)])),
    .commit,
    .run (.updateRecord ⟨9⟩ .empty),
    .run (.listRecords ⟨1⟩ (some "ADA") ⟨0, unsignedBound - 1, .descending⟩)]

theorem outcomes_eq_of_searched_run :
    ((Session.start.steps searchedSteps).1.getLast?.map fun outcome =>
        match outcome with
        | .ok (.page page) => page.items.map Record.id
        | _ => []) = some [⟨3⟩, ⟨1⟩] ∧
      start.stepsOver (overText .newestFirst) searchedSteps = start.steps .newestFirst searchedSteps ∧
      (start.steps .newestFirst searchedSteps).1 = (Session.start.steps searchedSteps).1 ∧
      (start.steps .newestFirst searchedSteps).2.committed.Mirrors
        (Session.start.steps searchedSteps).2.committed ∧
      (start.steps .newestFirst searchedSteps).2.working.Mirrors
        (Session.start.steps searchedSteps).2.working :=
  ⟨by decide +kernel, outcomes_eq_of_served_run .newestFirst (by decide) (by decide +kernel)
    ⟨by decide +kernel, by decide +kernel⟩⟩

end Server
end Sql
end RecordDirectory
