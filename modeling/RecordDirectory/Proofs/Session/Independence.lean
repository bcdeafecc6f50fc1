import RecordDirectory.Proofs.Session.Acceptance
import RecordDirectory.Proofs.Session.Traceless

namespace RecordDirectory

/-!
# Changes that do not see one another

A change of a record looks at the directories, and at which directory each record belongs to.  It never looks at
the values of a record, neither of another one nor of the one that it changes, and values are all that it writes.
So the changes of different records do not see one another: whichever comes first, both end as they would alone
and the tables are the same afterwards.  This includes records that refer to each other and changes that fail.

Which values are stored is therefore of no concern to a change or to a creation.  Two states that differ in
nothing but values, and in the ids handed out so far, refuse the same input for the same reason and accept it
with the same values.
-/

namespace Keyed

variable {κ : Type} {α : Type} [Ord κ] [DecidableEq κ] [Std.TransOrd κ] [Std.LawfulEqOrd κ]

theorem insert_comm (m : Keyed κ α) {first second : κ} (different : first ≠ second) (a b : α) :
    (m.insert first a).insert second b = (m.insert second b).insert first a := by
  refine ext_get? fun key => ?_
  simp only [get?_insert]
  by_cases isFirst : key = first
  · have notSecond : key ≠ second := isFirst ▸ different
    rw [if_neg notSecond, if_neg notSecond]
  · rw [if_neg isFirst, if_neg isFirst]

end Keyed

namespace Tables

/-- The same directories, and the same owner of each record. -/
structure SameOwners (t other : Tables) : Prop where
  directories : other.directories = t.directories
  owner : ∀ id, (other.records.get? id).map Record.directory = (t.records.get? id).map Record.directory

variable {t other : Tables}

theorem SameOwners.absent (same : t.SameOwners other) {id : RecordId} (absent : t.records.get? id = none) :
    other.records.get? id = none := by
  have owner := same.owner id
  rwa [absent, Option.map_none, Option.map_eq_none_iff] at owner

theorem SameOwners.stored (same : t.SameOwners other) {id : RecordId} {record : Record}
    (stored : t.records.get? id = some record) :
    ∃ twin, other.records.get? id = some twin ∧ twin.directory = record.directory := by
  have owner := same.owner id
  rwa [stored, Option.map_some, Option.map_eq_some_iff] at owner

theorem SameOwners.faultOf?_eq (same : t.SameOwners other) (reference : References.Reference) :
    other.faultOf? reference = t.faultOf? reference := by
  unfold faultOf?
  cases found : t.records.get? reference.record with
  | none => rw [same.absent found]
  | some record =>
      rcases same.stored found with ⟨twin, alsoFound, owner⟩
      rw [alsoFound]
      dsimp only
      rw [owner]

/-- What becomes of input is a matter of directories and owners. -/
theorem SameOwners.valuesOutcome_eq (same : t.SameOwners other) (fields : List FieldDefinition) (raw : RawValues) :
    other.valuesOutcome fields raw = t.valuesOutcome fields raw := by
  have faults : other.faultOf? = t.faultOf? := funext same.faultOf?_eq
  unfold valuesOutcome referencesOutcome referenceFault?
  rw [faults]

/-! ## Different records -/

theorem put_comm (t : Tables) {a b : RecordId} (different : a ≠ b)
    (first second : Except (Stop ServiceError) Record) :
    (t.put a first).put b second = (t.put b second).put a first := by
  cases first with
  | error stop => rfl
  | ok record =>
      cases second with
      | error stop => rfl
      | ok other => simp only [put, Keyed.insert_comm _ different]

theorem owner_of_changed {id : RecordId} {raw : RawValues} {record : Record}
    (accepted : t.changed id raw = .ok record) :
    ∃ stored, t.records.get? id = some stored ∧ record.directory = stored.directory := by
  unfold changed at accepted
  split at accepted
  · cases accepted
  · next stored found =>
    split at accepted
    · cases accepted
    · next directory owned =>
      generalize t.valuesOutcome directory.fields raw = ending at accepted
      cases ending <;> cases accepted
      exact ⟨stored, found, rfl⟩

/-- A change leaves each record with its owner. -/
theorem sameOwners_put_changed (t : Tables) (id : RecordId) (raw : RawValues) :
    t.SameOwners (t.put id (t.changed id raw)) := by
  cases accepted : t.changed id raw with
  | error stop => exact ⟨rfl, fun _ => rfl⟩
  | ok record =>
      rcases owner_of_changed accepted with ⟨stored, found, owner⟩
      refine ⟨rfl, fun other => ?_⟩
      simp only [put, Keyed.get?_insert]
      split
      · next same => rw [same, found, Option.map_some, Option.map_some, owner]
      · rfl

/-- A change ends in the same way after a change of another record. -/
theorem changed_put_changed (t : Tables) {a b : RecordId} (different : a ≠ b) (x y : RawValues) :
    (t.put a (t.changed a x)).changed b y = t.changed b y := by
  have same := t.sameOwners_put_changed a x
  have kept : (t.put a (t.changed a x)).records.get? b = t.records.get? b := by
    cases t.changed a x with
    | error stop => rfl
    | ok record => simp only [put, Keyed.get?_insert, if_neg different.symm]
  generalize t.put a (t.changed a x) = after at same kept ⊢
  unfold changed
  rw [kept, same.directories]
  simp only [same.valuesOutcome_eq]

end Tables

/-! ## Different values -/

/-- Two outcomes that are one refusal, or records of one directory with the same values. -/
inductive SameContent : Outcome → Outcome → Prop
  | refused (stop : Stop ServiceError) : SameContent (.error stop) (.error stop)
  | accepted {record other : Record} (owner : other.directory = record.directory)
      (values : other.values = record.values) : SameContent (.ok (.record record)) (.ok (.record other))

namespace Tables

variable {t other : Tables}

theorem SameOwners.sameContent_changed (same : t.SameOwners other) (id : RecordId) (raw : RawValues) :
    SameContent ((t.changed id raw).map Answer.record) ((other.changed id raw).map Answer.record) := by
  unfold changed
  cases found : t.records.get? id with
  | none =>
      rw [same.absent found]
      exact .refused _
  | some record =>
      rcases same.stored found with ⟨twin, alsoFound, owner⟩
      rw [alsoFound]
      dsimp only
      rw [owner, same.directories]
      cases t.directories.get? record.directory with
      | none => exact .refused _
      | some directory =>
          dsimp only
          rw [same.valuesOutcome_eq]
          cases t.valuesOutcome directory.fields raw with
          | error stop => exact .refused stop
          | ok values => exact .accepted rfl rfl

theorem SameOwners.sameContent_created (same : t.SameOwners other) (owner : DirectoryId) (raw : RawValues) :
    SameContent ((t.created owner raw).1.map Answer.record) ((other.created owner raw).1.map Answer.record) := by
  unfold created
  rw [same.directories]
  cases t.directories.get? owner with
  | none => exact .refused _
  | some directory =>
      dsimp only
      rw [same.valuesOutcome_eq]
      cases t.valuesOutcome directory.fields raw with
      | error stop => exact .refused stop
      | ok values =>
          dsimp only
          unfold createRecord
          rw [same.directories]
          split
          · exact .accepted rfl rfl
          · exact .refused _

end Tables

namespace Session

theorem step_updateRecord (session : Session) (id : RecordId) (raw : RawValues) :
    session.step (.run (.updateRecord id raw)) =
      ((session.working.changed id raw).map Answer.record,
        { session with working := session.working.put id (session.working.changed id raw) }) := by
  rw [step, Operation.run_updateRecord_changed]

/-- Changes of two different records change places, each with its outcome. -/
theorem steps_updateRecord_comm (session : Session) {a b : RecordId} (different : a ≠ b) (x y : RawValues) :
    ∃ first second after,
      session.steps [.run (.updateRecord a x), .run (.updateRecord b y)] = ([first, second], after) ∧
      session.steps [.run (.updateRecord b y), .run (.updateRecord a x)] = ([second, first], after) := by
  simp only [steps, step_updateRecord, Tables.changed_put_changed _ different,
    Tables.changed_put_changed _ different.symm]
  refine ⟨_, _, _, rfl, ?_⟩
  rw [Tables.put_comm _ different]

/-- The steps that change records, one after another. -/
def changes (entries : List (RecordId × RawValues)) : List Step :=
  entries.map fun entry => .run (.updateRecord entry.1 entry.2)

/-- Changes of records that are all different can be put into any order, each with its outcome. -/
theorem trace_changes_perm (session : Session) {entries others : List (RecordId × RawValues)}
    (shuffled : entries.Perm others) (distinct : (entries.map Prod.fst).Nodup) :
    (session.trace (changes entries)).Perm (session.trace (changes others)) ∧
      (session.steps (changes entries)).2 = (session.steps (changes others)).2 := by
  induction shuffled generalizing session with
  | nil => exact ⟨.nil, rfl⟩
  | cons entry _ inductionHypothesis =>
      rw [List.map_cons, List.nodup_cons] at distinct
      rcases inductionHypothesis (session.step (.run (.updateRecord entry.1 entry.2))).2 distinct.2 with
        ⟨sameTrace, sameEnd⟩
      exact ⟨sameTrace.cons _, sameEnd⟩
  | swap first second rest =>
      have different : second.1 ≠ first.1 := by
        intro same
        simp [same] at distinct
      simp only [changes, List.map_cons, trace_cons, steps_cons, step_updateRecord,
        Tables.changed_put_changed _ different, Tables.changed_put_changed _ different.symm,
        Tables.put_comm _ different, and_true]
      exact .swap _ _ _
  | trans former latter sameFormer sameLatter =>
      rcases sameFormer session distinct with ⟨toMiddle, middle⟩
      rcases sameLatter session ((former.map Prod.fst).nodup distinct) with ⟨toLast, last⟩
      exact ⟨toMiddle.trans toLast, middle.trans last⟩

/-- Whatever the state of a session is, updates of two different records end as they do in the other order, and
leave the same state.  In another session with the same directories and the same owners, with any values in the
records, creations and updates end in the same refusals or with the same values. -/
theorem updates_independent (session : Session) :
    (∀ a b, a ≠ b → ∀ x y, ∃ first second after,
      session.steps [.run (.updateRecord a x), .run (.updateRecord b y)] = ([first, second], after) ∧
      session.steps [.run (.updateRecord b y), .run (.updateRecord a x)] = ([second, first], after)) ∧
    ∀ other : Session, session.working.SameOwners other.working →
      (∀ owner raw, SameContent (session.step (.run (.createRecord owner raw))).1
        (other.step (.run (.createRecord owner raw))).1) ∧
      ∀ id raw, SameContent (session.step (.run (.updateRecord id raw))).1
        (other.step (.run (.updateRecord id raw))).1 := by
  refine ⟨fun a b different x y => steps_updateRecord_comm session different x y, fun other same => ⟨?_, ?_⟩⟩
  · intro owner raw
    simp only [step, Operation.run_createRecord_created]
    exact same.sameContent_created owner raw
  · intro id raw
    simp only [step_updateRecord]
    exact same.sameContent_changed id raw

/-- A person and a company, which can refer to each other in the end. -/
def coupledSteps : List Step :=
  [.run (.createDirectory default ⟨"Person", []⟩),
    .run (.createDirectory .ones ⟨"Company", [⟨"Owner", .reference, some ⟨1⟩⟩]⟩),
    .run (.createRecord ⟨1⟩ .empty),
    .run (.createRecord ⟨2⟩ (.ofList [("Owner", .integer 1)])),
    .run (.updateDirectory ⟨1⟩ ⟨"Person", [⟨"Employer", .reference, some ⟨2⟩⟩]⟩)]

/-- The person gets the company as employer, and the company is refused an owner who does not exist. -/
theorem updates_independent_of_coupled_run :
    let session := (start.steps coupledSteps).2
    let hire : Step := .run (.updateRecord ⟨1⟩ (.ofList [("Employer", .integer 2)]))
    let disown : Step := .run (.updateRecord ⟨2⟩ (.ofList [("Owner", .integer 9)]))
    let hired : Outcome := .ok (.record ⟨⟨1⟩, ⟨1⟩, .ofList [("Employer", .reference ⟨2⟩)]⟩)
    let kept : Outcome := .error (.because (.validation (.danglingReference "Owner" ⟨9⟩)))
    ∃ after, session.steps [hire, disown] = ([hired, kept], after) ∧
      session.steps [disown, hire] = ([kept, hired], after) := by
  intro session hire disown hired kept
  rcases (updates_independent session).1 ⟨1⟩ ⟨2⟩ (by decide) (.ofList [("Employer", .integer 2)])
    (.ofList [("Owner", .integer 9)]) with ⟨first, second, after, forth, back⟩
  have outcomes : (session.steps [hire, disown]).1 = [hired, kept] := by decide +kernel
  rw [forth] at outcomes
  cases outcomes
  exact ⟨after, forth, back⟩

end Session
end RecordDirectory
