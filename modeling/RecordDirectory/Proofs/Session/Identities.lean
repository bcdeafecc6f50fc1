import RecordDirectory.Proofs.Session.Runs

namespace RecordDirectory

/-!
# Ids in a run

Nothing is assumed of a run here.  It may write to the store without any check, with a code that is taken,
for a directory that does not exist, or under an id that is in use, and it may commit and roll back at any
moment.  Both states of the session stay sound all the same, since every single call keeps them so.

A rollback also takes back the ids that were handed out, and hands them out again afterwards.  Between two
rollbacks the counters only rise, so that a new id is above every id that was stored or handed out in the
meantime, whether or not its record is still there.  The stretch of a run that this is said of may start at
any moment of the run, and so "in the meantime" reaches back as far as the last rollback does.
-/

/-- A step that takes nothing back. -/
def Step.isForward : Step → Bool
  | .rollback => false
  | .run _ | .commit => true

namespace Task

/-- What every call keeps, a whole task keeps. -/
theorem run_preserves {α : Type} {invariant : Tables → Prop}
    (kept : ∀ c t, invariant t → invariant (Tables.answer c t).2) (task : Task α) {t : Tables}
    (holds : invariant t) : invariant (task.run Tables.answer t).2 := by
  induction task generalizing t with
  | done result => exact holds
  | ask c next inductionHypothesis =>
      have after := kept c t holds
      simp only [run]
      split
      · next reply s answered =>
        rw [answered] at after
        exact inductionHypothesis reply after
      · next error s answered =>
        rw [answered] at after
        exact after

end Task

namespace Operation

/-- The id of the directory that an operation has created. -/
def newDirectory? : Operation → Outcome → Option DirectoryId
  | .createDirectory _ _, .ok (.directory directory) => some directory.id
  | .store (.createDirectory _ _), .ok (.directory directory) => some directory.id
  | _, _ => none

/-- The id of the record that an operation has created. -/
def newRecord? : Operation → Outcome → Option RecordId
  | .createRecord _ _, .ok (.record record) => some record.id
  | .store (.createRecord _ _), .ok (.record record) => some record.id
  | _, _ => none

end Operation

namespace Tables

variable {t : Tables}

theorem Sound.run (sound : t.Sound) (operation : Operation) :
    (operation.task.run Tables.answer t).2.Sound :=
  operation.task.run_preserves (fun c _ sound => sound.answer c) sound

theorem Counts.run (t : Tables) (operation : Operation) :
    Counts t (operation.task.run Tables.answer t).2 :=
  operation.task.run_preserves (fun c s counts => counts.trans (.answer s c)) (.refl t)

/-- The run of a bare call is the answer to it. -/
theorem run_store (t : Tables) (c : StoreCall) :
    (Operation.store c).task.run Tables.answer t =
      (((Tables.answer c t).1.map c.toAnswer).mapError fun error => .because (.store error),
        (Tables.answer c t).2) := by
  change Task.run Tables.answer (.ask c fun reply => .done (.ok (c.toAnswer reply))) t = _
  simp only [Task.run]
  rcases Tables.answer c t with ⟨result, after⟩
  cases result <;> rfl

/-- A new directory has the next id, and its id is the last one from then on. -/
theorem Sound.newDirectory (sound : t.Sound) {operation : Operation} {id : DirectoryId}
    (created : operation.newDirectory? (operation.task.run Tables.answer t).1 = some id) :
    id.number = t.lastDirectoryId + 1 ∧
      (operation.task.run Tables.answer t).2.lastDirectoryId = id.number := by
  cases operation with
  | createDirectory code draft =>
      have effect : Effect t (.createDirectory code draft) _ _ := Operation.effect_run sound rfl
      generalize (Operation.createDirectory code draft).task.run Tables.answer t = ending
        at created effect ⊢
      rcases ending with ⟨outcome, after⟩
      cases effect with
      | kept idle =>
          rcases idle rfl with ⟨stop, failed⟩
          rw [failed] at created
          cases created
      | directoryCreated passed untaken admitted =>
          cases created
          simp [Tables.createDirectory, untaken, nextDirectory]
  | store c =>
      rw [run_store] at created ⊢
      cases c with
      | createDirectory code draft =>
          simp only [Tables.answer, Tables.createDirectory] at created ⊢
          split at created
          · cases created
          · next untaken =>
            cases created
            rw [if_neg untaken]
            exact ⟨rfl, rfl⟩
      | _ => cases created
  | _ => cases created

/-- A new record has the next id, and its id is the last one from then on. -/
theorem Sound.newRecord (sound : t.Sound) {operation : Operation} {id : RecordId}
    (created : operation.newRecord? (operation.task.run Tables.answer t).1 = some id) :
    id.number = t.lastRecordId + 1 ∧ (operation.task.run Tables.answer t).2.lastRecordId = id.number := by
  cases operation with
  | createRecord owner raw =>
      have effect : Effect t (.createRecord owner raw) _ _ := Operation.effect_run sound rfl
      generalize (Operation.createRecord owner raw).task.run Tables.answer t = ending
        at created effect ⊢
      rcases ending with ⟨outcome, after⟩
      cases effect with
      | kept idle =>
          rcases idle rfl with ⟨stop, failed⟩
          rw [failed] at created
          cases created
      | recordCreated found accepted =>
          cases created
          simp [Tables.createRecord, Keyed.contains_iff.mpr ⟨_, found⟩, nextRecord]
  | store c =>
      rw [run_store] at created ⊢
      cases c with
      | createRecord owner values =>
          simp only [Tables.answer, Tables.createRecord] at created ⊢
          split at created
          · next owned =>
            cases created
            rw [if_pos owned]
            exact ⟨rfl, rfl⟩
          · cases created
      | _ => cases created
  | _ => cases created

theorem Sound.directory_le (sound : t.Sound) {directory : Directory}
    (listed : directory ∈ t.directories.values) : directory.id.number ≤ t.lastDirectoryId :=
  (sound.directory_bound (sound.get?_of_mem_directories listed)).2

theorem Sound.record_le (sound : t.Sound) {record : Record} (listed : record ∈ t.records.values) :
    record.id.number ≤ t.lastRecordId :=
  (sound.record_bound (sound.get?_of_mem_records listed)).2

end Tables

namespace Session

/-- Both states are sound, and the open transaction knows of every id that was handed out before it. -/
structure Sound (session : Session) : Prop where
  committed : session.committed.Sound
  working : session.working.Sound
  counts : Tables.Counts session.committed session.working

variable {session : Session}

theorem sound_start : start.Sound :=
  ⟨Tables.sound_empty, Tables.sound_empty, .refl _⟩

theorem Sound.step (sound : session.Sound) (step : Step) : (session.step step).2.Sound := by
  cases step with
  | run operation =>
      exact ⟨sound.committed, sound.working.run operation, sound.counts.trans (.run _ operation)⟩
  | commit => exact ⟨sound.working, sound.working, .refl _⟩
  | rollback => exact ⟨sound.committed, sound.committed, .refl _⟩

theorem Sound.steps (sound : session.Sound) (steps : List Step) : (session.steps steps).2.Sound := by
  induction steps generalizing session with
  | nil => exact sound
  | cons step rest inductionHypothesis => exact inductionHypothesis (sound.step step)

/-- The new ids in the outcomes of steps, in the order in which they are handed out. -/
def handedOut {ι : Type} (new? : Operation → Outcome → Option ι) (session : Session) :
    List Step → List ι
  | [] => []
  | .run operation :: rest =>
    let (outcome, next) := session.step (.run operation)
    (new? operation outcome).toList ++ next.handedOut new? rest
  | step :: rest => handedOut new? (session.step step).2 rest

/-- New ids that come from a counter ascend, and all of them are above where the counter stood. -/
theorem handedOut_ascends {ι : Type} (number : ι → Int) (last : Tables → Int)
    (new? : Operation → Outcome → Option ι)
    (rises : ∀ {t after}, Tables.Counts t after → last t ≤ last after)
    (counted : ∀ {t : Tables} {operation : Operation} {id}, t.Sound →
      new? operation (operation.task.run Tables.answer t).1 = some id →
      number id = last t + 1 ∧ last (operation.task.run Tables.answer t).2 = number id)
    (sound : session.Sound) {steps : List Step} (forward : ∀ step ∈ steps, step.isForward = true) :
    (session.handedOut new? steps).Pairwise (fun a b => number a < number b) ∧
      ∀ id ∈ session.handedOut new? steps, last session.working < number id := by
  induction steps generalizing session with
  | nil => exact ⟨.nil, fun _ listed => (List.not_mem_nil listed).elim⟩
  | cons step rest inductionHypothesis =>
      rcases List.forall_mem_cons.mp forward with ⟨first, later⟩
      rcases inductionHypothesis (sound.step step) later with ⟨ascending, above⟩
      cases step with
      | rollback => cases first
      | commit => exact ⟨ascending, above⟩
      | run operation =>
          have risen := rises (Tables.Counts.run session.working operation)
          simp only [handedOut]
          cases created : new? operation (session.step (.run operation)).1 with
          | none =>
              refine ⟨ascending, ?_⟩
              intro id listed
              exact Int.lt_of_le_of_lt risen (above id listed)
          | some newest =>
              rcases counted sound.working created with ⟨next, latest⟩
              have behind : ∀ id ∈ (session.step (.run operation)).2.handedOut new? rest,
                  number newest < number id := fun id listed => latest ▸ above id listed
              refine ⟨List.pairwise_cons.mpr ⟨behind, ascending⟩, ?_⟩
              intro id listed
              rcases List.mem_cons.mp listed with rfl | listedLater
              · omega
              · have := behind id listedLater
                omega

/-- No state has a directory beyond the last id that was handed out. -/
theorem Sound.directories_le (sound : session.Sound) : session.Satisfies fun t =>
    ∀ directory ∈ t.directories.values, directory.id.number ≤ session.working.lastDirectoryId where
  committed _ listed := Int.le_trans (sound.committed.directory_le listed) sound.counts.directory
  working _ listed := sound.working.directory_le listed

/-- No state has a record beyond the last id that was handed out. -/
theorem Sound.records_le (sound : session.Sound) : session.Satisfies fun t =>
    ∀ record ∈ t.records.values, record.id.number ≤ session.working.lastRecordId where
  committed _ listed := Int.le_trans (sound.committed.record_le listed) sound.counts.record
  working _ listed := sound.working.record_le listed

/-- After any run at all both states are sound.  From there on, as long as nothing is rolled back, the ids
of new directories and of new records ascend, and each of them is above all ids that are stored. -/
theorem sound_of_run (before stretch : List Step)
    (forward : ∀ step ∈ stretch, step.isForward = true) :
    let session := (start.steps before).2
    let directories := session.handedOut Operation.newDirectory? stretch
    let records := session.handedOut Operation.newRecord? stretch
    session.Satisfies Tables.Sound ∧
      (directories.Pairwise (fun a b => a.number < b.number) ∧
        ∀ id ∈ directories, session.Satisfies fun t =>
          ∀ directory ∈ t.directories.values, directory.id.number < id.number) ∧
      (records.Pairwise (fun a b => a.number < b.number) ∧
        ∀ id ∈ records, session.Satisfies fun t =>
          ∀ record ∈ t.records.values, record.id.number < id.number) := by
  have sound := sound_start.steps before
  have directories := handedOut_ascends DirectoryId.number Tables.lastDirectoryId Operation.newDirectory?
    Tables.Counts.directory (fun sound => sound.newDirectory) sound forward
  have records := handedOut_ascends RecordId.number Tables.lastRecordId Operation.newRecord?
    Tables.Counts.record (fun sound => sound.newRecord) sound forward
  refine ⟨⟨sound.committed, sound.working⟩, ⟨directories.1, fun id listed => ?_⟩,
    records.1, fun id listed => ?_⟩
  · have below := directories.2 id listed
    exact ⟨fun _ stored => Int.lt_of_le_of_lt (sound.directories_le.committed _ stored) below,
      fun _ stored => Int.lt_of_le_of_lt (sound.directories_le.working _ stored) below⟩
  · have below := records.2 id listed
    exact ⟨fun _ stored => Int.lt_of_le_of_lt (sound.records_le.committed _ stored) below,
      fun _ stored => Int.lt_of_le_of_lt (sound.records_le.working _ stored) below⟩

/-- Bare writes, and a record that is taken back. -/
def uncheckedSteps : List Step :=
  [.run (.store (.createDirectory default ⟨"", []⟩)),
    .run (.store (.createRecord ⟨1⟩ .empty)),
    .commit,
    .run (.createRecord ⟨1⟩ .empty),
    .rollback]

/-- New records with a deletion and a commit between them, a code that is taken, a directory with another
code, one that is not stored, and a record without a directory. -/
def deletedSteps : List Step :=
  [.run (.createRecord ⟨1⟩ .empty),
    .run (.store (.createDirectory default ⟨"", []⟩)),
    .run (.deleteRecord ⟨2⟩),
    .run (.store (.updateDirectory ⟨⟨1⟩, .ones, "A", []⟩)),
    .run (.store (.updateDirectory ⟨⟨7⟩, .ones, "A", []⟩)),
    .commit,
    .run (.store (.createRecord ⟨9⟩ .empty)),
    .run (.store (.createRecord ⟨1⟩ .empty)),
    .run (.createDirectory .ones ⟨"B", []⟩)]

theorem sound_of_unchecked_run :
    let session := (start.steps uncheckedSteps).2
    session.handedOut Operation.newDirectory? deletedSteps = [⟨2⟩] ∧
      session.handedOut Operation.newRecord? deletedSteps = [⟨2⟩, ⟨3⟩] ∧
      session.Satisfies Tables.Sound ∧
      ∀ id ∈ session.handedOut Operation.newRecord? deletedSteps, session.Satisfies fun t =>
        ∀ record ∈ t.records.values, record.id.number < id.number :=
  have holds := sound_of_run uncheckedSteps deletedSteps (by decide)
  ⟨by decide +kernel, by decide +kernel, holds.1, holds.2.2.2⟩

end Session
end RecordDirectory
