import RecordDirectory.Proofs.Session.Conformance
import RecordDirectory.Proofs.Session.Identities

namespace RecordDirectory

/-!
# What a step leaves alone

A write names one entry.  It adds the entry, replaces the part of it that may be replaced, or removes it, and
every other entry of both tables is the same afterwards.  This is so for the services and for the bare writes
of the store, which differ only in what they check before (`Tables.touches_run`).

What may not be replaced is the code of a directory and the owner of a record.  A bare write may carry
another code, but it is not looked at.  So both stay as they are over every stretch of a run that takes
nothing back, and between committed states over every run.
-/

/-- The one thing that a successful write does. -/
inductive Change where
  | directoryAdded (directory : Directory)
  | directoryChanged (id : DirectoryId) (name : String) (fields : List FieldDefinition)
  | recordAdded (record : Record)
  | recordChanged (id : RecordId) (values : Values)
  | recordRemoved (id : RecordId)

/-- What an operation with this outcome has to do with the tables; nothing if it only reads or has failed. -/
def Operation.change? : Operation → Outcome → Option Change
  | .createDirectory _ _, .ok (.directory directory)
  | .store (.createDirectory _ _), .ok (.directory directory) => some (.directoryAdded directory)
  | .updateDirectory id _, .ok (.directory directory) =>
    some (.directoryChanged id directory.name directory.fields)
  | .store (.updateDirectory directory), .ok (.changed true) =>
    some (.directoryChanged directory.id directory.name directory.fields)
  | .createRecord _ _, .ok (.record record)
  | .store (.createRecord _ _), .ok (.record record) => some (.recordAdded record)
  | .updateRecord id _, .ok (.record record) => some (.recordChanged id record.values)
  | .store (.updateRecord id values), .ok (.changed true) => some (.recordChanged id values)
  | .deleteRecord id, .ok .nothing
  | .store (.deleteRecord id), .ok (.changed true) => some (.recordRemoved id)
  | _, _ => none

namespace Tables

/-! ## One entry -/

/-- Nothing but the directory with this id differs, and the counter of directories. -/
structure OnlyDirectory (t after : Tables) (id : DirectoryId) : Prop where
  others : ∀ other, other ≠ id → after.directories.get? other = t.directories.get? other
  records : after.records = t.records
  record_count : after.lastRecordId = t.lastRecordId

/-- Nothing but the record with this id differs, and the counter of records. -/
structure OnlyRecord (t after : Tables) (id : RecordId) : Prop where
  others : ∀ other, other ≠ id → after.records.get? other = t.records.get? other
  directories : after.directories = t.directories
  directory_count : after.lastDirectoryId = t.lastDirectoryId

structure AddsDirectory (t after : Tables) (directory : Directory) : Prop
    extends OnlyDirectory t after directory.id where
  fresh : t.directories.get? directory.id = none
  added : after.directories.get? directory.id = some directory
  count : after.lastDirectoryId = t.lastDirectoryId + 1

/-- The directory is the same up to its name and its fields. -/
structure ChangesDirectory (t after : Tables) (id : DirectoryId) (name : String)
    (fields : List FieldDefinition) : Prop extends OnlyDirectory t after id where
  changed : ∃ stored, t.directories.get? id = some stored ∧
    after.directories.get? id = some { stored with name := name, fields := fields }
  count : after.lastDirectoryId = t.lastDirectoryId

structure AddsRecord (t after : Tables) (record : Record) : Prop extends OnlyRecord t after record.id where
  fresh : t.records.get? record.id = none
  added : after.records.get? record.id = some record
  number : record.id.number = t.lastRecordId + 1
  count : after.lastRecordId = t.lastRecordId + 1

/-- The record is the same up to its values. -/
structure ChangesRecord (t after : Tables) (id : RecordId) (values : Values) : Prop
    extends OnlyRecord t after id where
  changed : ∃ stored, t.records.get? id = some stored ∧
    after.records.get? id = some { stored with values := values }
  count : after.lastRecordId = t.lastRecordId

structure RemovesRecord (t after : Tables) (id : RecordId) : Prop extends OnlyRecord t after id where
  stored : t.records.contains id = true
  gone : after.records.get? id = none
  count : after.lastRecordId = t.lastRecordId

/-- The later tables differ from the earlier ones by a change and nothing else. -/
def Touches (t after : Tables) : Option Change → Prop
  | some (.directoryAdded directory) => AddsDirectory t after directory
  | some (.directoryChanged id name fields) => ChangesDirectory t after id name fields
  | some (.recordAdded record) => AddsRecord t after record
  | some (.recordChanged id values) => ChangesRecord t after id values
  | some (.recordRemoved id) => RemovesRecord t after id
  | none => after = t

/-! ## What each write touches -/

variable {t after : Tables}

theorem addsDirectory_createDirectory (sound : t.Sound) {code : DirectoryCode} (draft : DirectoryDraft)
    (untaken : t.codeTaken code = false) :
    AddsDirectory t (t.createDirectory code draft).2 (t.nextDirectory code draft) := by
  have fresh : t.directories.get? (t.nextDirectory code draft).id = none := sound.fresh_directory
  simp only [createDirectory, untaken, Bool.false_eq_true, if_false]
  exact ⟨⟨fun other different => by rw [Keyed.get?_insert, if_neg different], rfl, rfl⟩, fresh,
    by rw [Keyed.get?_insert, if_pos rfl], rfl⟩

theorem changesDirectory_updateDirectory {directory stored : Directory}
    (found : t.directories.get? directory.id = some stored) :
    ChangesDirectory t (t.updateDirectory directory).2 directory.id directory.name directory.fields := by
  simp only [updateDirectory, found]
  exact ⟨⟨fun other different => by rw [Keyed.get?_insert, if_neg different], rfl, rfl⟩,
    ⟨stored, found, by rw [Keyed.get?_insert, if_pos rfl]⟩, rfl⟩

theorem addsRecord_createRecord (sound : t.Sound) {owner : DirectoryId} (values : Values)
    (present : t.directories.contains owner = true) :
    AddsRecord t (t.createRecord owner values).2 (t.nextRecord owner values) := by
  have fresh : t.records.get? (t.nextRecord owner values).id = none := by
    cases stored : t.records.get? (t.nextRecord owner values).id with
    | none => rfl
    | some record =>
        have bound := (sound.record_bound stored).2
        simp only [nextRecord] at bound
        omega
  simp only [createRecord, present, if_true]
  exact ⟨⟨fun other different => by rw [Keyed.get?_insert, if_neg different], rfl, rfl⟩, fresh,
    by rw [Keyed.get?_insert, if_pos rfl], rfl, rfl⟩

theorem changesRecord_updateRecord {id : RecordId} {stored : Record} (values : Values)
    (found : t.records.get? id = some stored) : ChangesRecord t (t.updateRecord id values).2 id values := by
  simp only [updateRecord, found]
  exact ⟨⟨fun other different => by rw [Keyed.get?_insert, if_neg different], rfl, rfl⟩,
    ⟨stored, found, by rw [Keyed.get?_insert, if_pos rfl]⟩, rfl⟩

theorem removesRecord_deleteRecord {id : RecordId} (present : t.records.contains id = true) :
    RemovesRecord t (t.deleteRecord id).2 id := by
  simp only [deleteRecord, present, if_true]
  exact ⟨⟨fun other different => by rw [Keyed.get?_erase, if_neg different], rfl, rfl⟩, present,
    by rw [Keyed.get?_erase, if_pos rfl], rfl⟩

/-- What has failed, or only reads, is no change. -/
theorem change?_of_kept {operation : Operation} {outcome : Outcome} (guarded : operation.isGuarded = true)
    (idle : operation.isWrite = true → ∃ stop, outcome = .error stop) : operation.change? outcome = none := by
  cases writes : operation.isWrite with
  | true =>
      rcases idle writes with ⟨stop, rfl⟩
      cases operation with
      | store c => cases c <;> rfl
      | _ => rfl
  | false =>
      cases operation with
      | createDirectory | updateDirectory | createRecord | updateRecord | deleteRecord => cases writes
      | store c => cases c <;> first | rfl | cases writes
      | getDirectory | listDirectories | getRecord | listRecords | listAllRecords | checkCreation
      | checkChange | checkValues => rfl

/-- The effect of a guarded operation is one change. -/
theorem touches_of_effect (sound : t.Sound) {operation : Operation} {outcome : Outcome}
    (guarded : operation.isGuarded = true) (effect : Effect t operation outcome after) :
    Touches t after (operation.change? outcome) := by
  cases effect with
  | kept idle =>
      rw [change?_of_kept guarded idle]
      rfl
  | directoryCreated passed untaken admitted => exact addsDirectory_createDirectory sound _ untaken
  | @directoryUpdated id draft checked directory passed found admitted =>
      have named := sound.directory_id found
      subst named
      exact changesDirectory_updateDirectory found
  | recordCreated found accepted =>
      exact addsRecord_createRecord sound _ (Keyed.contains_iff.mpr ⟨_, found⟩)
  | recordUpdated found owned accepted => exact changesRecord_updateRecord _ found
  | recordDeleted found => exact removesRecord_deleteRecord (Keyed.contains_iff.mpr ⟨_, found⟩)

/-- Every bare call is one change as well, although nothing has been checked. -/
theorem touches_answer (sound : t.Sound) (c : StoreCall) :
    Touches t (Tables.answer c t).2
      ((Operation.store c).change?
        (((Tables.answer c t).1.map c.toAnswer).mapError fun error => .because (.store error))) := by
  -- The guards of the store decide each case; where they fail, the call answers so and returns the tables.
  cases c with
  | createDirectory code draft =>
      cases untaken : t.codeTaken code with
      | true =>
          have refused : Tables.answer (.createDirectory code draft) t = (.error .alreadyExists, t) := by
            simp [Tables.answer, createDirectory, untaken]
          rw [refused]
          rfl
      | false =>
          have stored : Tables.answer (.createDirectory code draft) t =
              (.ok (t.nextDirectory code draft), (t.createDirectory code draft).2) := by
            simp [Tables.answer, createDirectory, untaken]
          rw [stored]
          exact addsDirectory_createDirectory sound draft untaken
  | updateDirectory directory =>
      cases found : t.directories.get? directory.id with
      | none =>
          have absent : Tables.answer (.updateDirectory directory) t = (.ok false, t) := by
            simp [Tables.answer, updateDirectory, found]
          rw [absent]
          rfl
      | some stored =>
          have changed : Tables.answer (.updateDirectory directory) t =
              (.ok true, (t.updateDirectory directory).2) := by
            simp [Tables.answer, updateDirectory, found]
          rw [changed]
          exact changesDirectory_updateDirectory found
  | createRecord owner values =>
      cases present : t.directories.contains owner with
      | false =>
          have refused : Tables.answer (.createRecord owner values) t = (.error .notFound, t) := by
            simp [Tables.answer, createRecord, present]
          rw [refused]
          rfl
      | true =>
          have stored : Tables.answer (.createRecord owner values) t =
              (.ok (t.nextRecord owner values), (t.createRecord owner values).2) := by
            simp [Tables.answer, createRecord, present]
          rw [stored]
          exact addsRecord_createRecord sound values present
  | updateRecord id values =>
      cases found : t.records.get? id with
      | none =>
          have absent : Tables.answer (.updateRecord id values) t = (.ok false, t) := by
            simp [Tables.answer, updateRecord, found]
          rw [absent]
          rfl
      | some stored =>
          have changed : Tables.answer (.updateRecord id values) t = (.ok true, (t.updateRecord id values).2) := by
            simp [Tables.answer, updateRecord, found]
          rw [changed]
          exact changesRecord_updateRecord values found
  | deleteRecord id =>
      cases present : t.records.contains id with
      | false =>
          have absent : Tables.answer (.deleteRecord id) t = (.ok false, t) := by
            simp [Tables.answer, deleteRecord, present]
          rw [absent]
          rfl
      | true =>
          have removed : Tables.answer (.deleteRecord id) t = (.ok true, (t.deleteRecord id).2) := by
            simp [Tables.answer, deleteRecord, present]
          rw [removed]
          exact removesRecord_deleteRecord present
  | existingDirectories | recordOwners | getDirectory | listDirectories | getRecord | queryRecords => rfl

/-- An operation on sound tables touches the one entry that it names. -/
theorem touches_run (sound : t.Sound) (operation : Operation) :
    Touches t (operation.task.run Tables.answer t).2
      (operation.change? (operation.task.run Tables.answer t).1) := by
  cases guarded : operation.isGuarded with
  | true => exact touches_of_effect sound guarded (Operation.effect_run sound guarded)
  | false =>
      cases operation with
      | store c =>
          rw [run_store]
          exact touches_answer sound c
      | _ => cases guarded

/-! ## Identity -/

/-- Every directory is still there with its code, and no record has got another owner or an id that was
handed out before. -/
structure Keeps (t after : Tables) : Prop extends Follows t after where
  directory : ∀ {id earlier}, t.directories.get? id = some earlier →
    ∃ later, after.directories.get? id = some later ∧ later.code = earlier.code

namespace Keeps

variable {later : Tables}

theorem refl (t : Tables) : Keeps t t where
  count := Int.le_refl _
  owner _ stored := ⟨_, stored, rfl⟩
  directory stored := ⟨_, stored, rfl⟩

theorem trans (first : Keeps t after) (second : Keeps after later) : Keeps t later where
  count := Int.le_trans first.count second.count
  owner known stored := by
    rcases second.owner (Int.le_trans known first.count) stored with ⟨between, found, sameOwner⟩
    rcases first.owner known found with ⟨earlier, foundEarlier, alsoSame⟩
    exact ⟨earlier, foundEarlier, alsoSame.trans sameOwner⟩
  directory stored := by
    rcases first.directory stored with ⟨between, found, sameCode⟩
    rcases second.directory found with ⟨last, foundLast, alsoSame⟩
    exact ⟨last, foundLast, alsoSame.trans sameCode⟩

/-- Directories alone have changed, and those that were there still have their codes. -/
theorem of_onlyDirectory {id : DirectoryId} (only : OnlyDirectory t after id)
    (kept : ∀ earlier, t.directories.get? id = some earlier →
      ∃ later, after.directories.get? id = some later ∧ later.code = earlier.code) : Keeps t after where
  toFollows := .of_records_eq only.records only.record_count
  directory {other} {earlier} stored := by
    by_cases same : other = id
    · subst same
      exact kept earlier stored
    · exact ⟨earlier, (only.others other same).trans stored, rfl⟩

/-- Records alone have changed, and the one that has, if it was there before, still has its owner. -/
theorem of_onlyRecord {id : RecordId} (only : OnlyRecord t after id)
    (count : t.lastRecordId ≤ after.lastRecordId)
    (kept : ∀ later, id.number ≤ t.lastRecordId → after.records.get? id = some later →
      ∃ earlier, t.records.get? id = some earlier ∧ earlier.directory = later.directory) : Keeps t after where
  count := count
  owner {other} {later} known stored := by
    by_cases same : other = id
    · subst same
      exact kept later known stored
    · exact ⟨later, (only.others other same).symm.trans stored, rfl⟩
  directory stored := ⟨_, only.directories ▸ stored, rfl⟩

end Keeps

/-- A single change keeps the identity of everything. -/
theorem Touches.keeps {change : Option Change} (touches : Touches t after change) : Keeps t after := by
  match change, touches with
  | none, same => exact same ▸ .refl t
  | some (.directoryAdded directory), adds =>
      refine .of_onlyDirectory adds.toOnlyDirectory fun earlier stored => ?_
      rw [adds.fresh] at stored
      cases stored
  | some (.directoryChanged id name fields), changes =>
      rcases changes.changed with ⟨stored, found, changed⟩
      refine .of_onlyDirectory changes.toOnlyDirectory fun earlier alsoFound => ?_
      rw [found] at alsoFound
      cases alsoFound
      exact ⟨_, changed, rfl⟩
  | some (.recordAdded record), adds =>
      refine .of_onlyRecord adds.toOnlyRecord (adds.count ▸ Int.le_add_one (Int.le_refl _)) ?_
      intro later known
      rw [adds.number] at known
      omega
  | some (.recordChanged id values), changes =>
      rcases changes.changed with ⟨stored, found, changed⟩
      refine .of_onlyRecord changes.toOnlyRecord (Int.le_of_eq changes.count.symm) fun later _ alsoFound => ?_
      rw [changed] at alsoFound
      cases alsoFound
      exact ⟨stored, found, rfl⟩
  | some (.recordRemoved id), removes =>
      refine .of_onlyRecord removes.toOnlyRecord (Int.le_of_eq removes.count.symm) fun later _ stored => ?_
      rw [removes.gone] at stored
      cases stored

theorem Sound.keeps_run (sound : t.Sound) (operation : Operation) :
    Keeps t (operation.task.run Tables.answer t).2 :=
  (touches_run sound operation).keeps

/-- No directory is gone or has another code, and no record that is still there has another owner. -/
structure SameIdentities (t after : Tables) : Prop where
  directory : ∀ id earlier, t.directories.get? id = some earlier →
    ∃ later, after.directories.get? id = some later ∧ later.code = earlier.code
  record : ∀ id earlier later, t.records.get? id = some earlier → after.records.get? id = some later →
    later.directory = earlier.directory

theorem Keeps.sameIdentities (keeps : Keeps t after) (sound : t.Sound) : SameIdentities t after where
  directory _ _ stored := keeps.directory stored
  record id earlier later stored storedLater := by
    rcases keeps.owner (sound.record_bound stored).2 storedLater with ⟨other, found, sameOwner⟩
    rw [stored] at found
    cases found
    exact sameOwner.symm

end Tables

/-! ## Whole runs -/

namespace Session

variable {session : Session}

/-- As long as nothing is taken back, the open transaction keeps the identity of everything. -/
theorem Sound.keeps_steps (sound : session.Sound) {stretch : List Step}
    (forward : ∀ step ∈ stretch, step.isForward = true) :
    Tables.Keeps session.working (session.steps stretch).2.working := by
  induction stretch generalizing session with
  | nil => exact .refl _
  | cons step rest inductionHypothesis =>
      rcases List.forall_mem_cons.mp forward with ⟨first, later⟩
      have behind := inductionHypothesis (sound.step step) later
      cases step with
      | rollback => cases first
      | commit => exact behind
      | run operation => exact (sound.working.keeps_run operation).trans behind

/-- A sound session whose open transaction has kept the identity of what is committed. -/
structure Steady (session : Session) : Prop extends session.Sound where
  keeps : Tables.Keeps session.committed session.working

theorem steady_start : start.Steady where
  toSound := sound_start
  keeps := .refl _

theorem Steady.step (steady : session.Steady) (step : Step) : (session.step step).2.Steady where
  toSound := steady.toSound.step step
  keeps :=
    match step with
    | .run operation => steady.keeps.trans (steady.working.keeps_run operation)
    | .commit | .rollback => .refl _

theorem Steady.steps (steady : session.Steady) (steps : List Step) : (session.steps steps).2.Steady := by
  induction steps generalizing session with
  | nil => exact steady
  | cons step rest inductionHypothesis => exact inductionHypothesis (steady.step step)

theorem Steady.committed_step (steady : session.Steady) (step : Step) :
    Tables.Keeps session.committed (session.step step).2.committed := by
  cases step with
  | run | rollback => exact .refl _
  | commit => exact steady.keeps

/-- What is committed changes by commits only, so a rollback is no exception here. -/
theorem Steady.committed_steps (steady : session.Steady) (steps : List Step) :
    Tables.Keeps session.committed (session.steps steps).2.committed := by
  induction steps generalizing session with
  | nil => exact .refl _
  | cons step rest inductionHypothesis =>
      exact (steady.committed_step step).trans (inductionHypothesis (steady.step step))

/-- After any run at all, every operation touches the one entry that it names, and fails or reads without
touching any.  From there on codes and owners stay as they are: those of the open transaction as long as
nothing is rolled back, and those of what is committed over any further run. -/
theorem touches_of_run (before : List Step) :
    let session := (start.steps before).2
    (∀ operation, session.working.Touches (session.step (.run operation)).2.working
        (operation.change? (session.step (.run operation)).1)) ∧
      (∀ stretch : List Step, (∀ step ∈ stretch, step.isForward = true) →
        session.working.SameIdentities (session.steps stretch).2.working) ∧
      ∀ steps, session.committed.SameIdentities (session.steps steps).2.committed := by
  have steady := steady_start.steps before
  refine ⟨Tables.touches_run steady.working, fun stretch forward => ?_, fun steps => ?_⟩
  · exact (steady.keeps_steps forward).sameIdentities steady.working
  · exact (steady.committed_steps steps).sameIdentities steady.committed

/-- A record that refers to another one. -/
def ownedSteps : List Step :=
  [.run (.createDirectory default ⟨"Person", []⟩),
    .run (.createDirectory .ones ⟨"Company", [⟨"Owner", .reference, some ⟨1⟩⟩]⟩),
    .run (.createRecord ⟨1⟩ .empty),
    .run (.createRecord ⟨2⟩ (.ofList [("Owner", .integer 1)])),
    .commit]

/-- A bare write with the code of another directory, and a deletion of what is referred to. -/
def recodedSteps : List Step :=
  [.run (.store (.updateDirectory ⟨⟨1⟩, .ones, "Human", []⟩)),
    .commit,
    .run (.deleteRecord ⟨1⟩)]

/-- The directory has its new name under its old code, and the reference is still held. -/
theorem touches_of_recoded_run :
    let session := (start.steps ownedSteps).2
    let later := (session.steps recodedSteps).2
    later.working.directories.get? ⟨1⟩ = some ⟨⟨1⟩, default, "Human", []⟩ ∧
      later.working.records.values = [⟨⟨2⟩, ⟨2⟩, .ofList [("Owner", .reference ⟨1⟩)]⟩] ∧
      later.working.Touches (later.step (.run (.deleteRecord ⟨2⟩))).2.working (some (.recordRemoved ⟨2⟩)) ∧
      session.working.SameIdentities later.working :=
  ⟨by decide +kernel, by decide +kernel, (touches_of_run (ownedSteps ++ recodedSteps)).1 (.deleteRecord ⟨2⟩),
    (touches_of_run ownedSteps).2.1 recodedSteps (by decide)⟩

end Session
end RecordDirectory
