import RecordDirectory.Proofs.Keyed.Values
import RecordDirectory.Proofs.Store.Checks

namespace RecordDirectory

/-!
# The targets of a directory

The check of targets is about a set.  What counts is which directories the reference fields point at, and not
which field points where, how often, or in what order.  All of them that are not stored are reported together,
in the order of their ids, and so the sender of a draft can mend it in one go.

A directory that is changed has an id already, which no target may be.  This is looked at last: where a target
is missing, the answer is the same as for a directory that is about to be created.
-/

namespace FieldDefinition

variable {fields others : List FieldDefinition} {id : DirectoryId}

/-- One of the reference fields points at a directory.  The target of another field does not count. -/
def PointAt (fields : List FieldDefinition) (id : DirectoryId) : Prop :=
  ∃ field ∈ fields, field.type = .reference ∧ field.target = some id

theorem referenceTarget?_eq_some_iff {field : FieldDefinition} :
    field.referenceTarget? = some id ↔ field.type = .reference ∧ field.target = some id := by
  unfold referenceTarget?
  cases field.type <;> simp

theorem mem_referenceTargets_iff_pointAt : id ∈ referenceTargets fields ↔ PointAt fields id := by
  simp only [mem_referenceTargets, referenceTarget?_eq_some_iff, PointAt]

/-- Fields that point at the same directories have the same list of targets. -/
theorem referenceTargets_eq_of_pointAt (same : ∀ id, PointAt others id ↔ PointAt fields id) :
    referenceTargets others = referenceTargets fields := by
  refine Keyed.eq_of_ascending (Keyed.distinct_ascending _) (Keyed.distinct_ascending _) fun id => ?_
  exact mem_referenceTargets_iff_pointAt.trans ((same id).trans mem_referenceTargets_iff_pointAt.symm)

/-- Lists with the same reference fields point at the same directories. -/
theorem pointAt_iff_of_mem_iff (same : ∀ field, field.type = .reference → (field ∈ others ↔ field ∈ fields))
    (id : DirectoryId) : PointAt others id ↔ PointAt fields id := by
  refine exists_congr fun field => ?_
  constructor
  · rintro ⟨listed, kind, pointed⟩
    exact ⟨(same field kind).mp listed, kind, pointed⟩
  · rintro ⟨listed, kind, pointed⟩
    exact ⟨(same field kind).mpr listed, kind, pointed⟩

end FieldDefinition

open FieldDefinition

namespace Tables

variable {t : Tables} {fields : List FieldDefinition}

/-- All directories that fields point at and that are not stored, in ascending order. -/
structure Lacks (t : Tables) (fields : List FieldDefinition) (missing : List DirectoryId) : Prop where
  ascending : missing.Pairwise fun a b => a.number < b.number
  exact : ∀ id, id ∈ missing ↔ PointAt fields id ∧ t.directories.contains id = false

/-- Every directory that fields point at is stored. -/
def Complete (t : Tables) (fields : List FieldDefinition) : Prop :=
  ∀ id, PointAt fields id → t.directories.contains id = true

/-- How the check of the targets of a directory ends.  The directory's own id is given if it has one. -/
inductive TargetVerdict (t : Tables) (fields : List FieldDefinition) (own : Option DirectoryId) :
    Except (Stop ServiceError) Unit → Prop
  | missing {id : DirectoryId} {missing : List DirectoryId} (pointed : PointAt fields id)
      (absent : t.directories.contains id = false) (all : t.Lacks fields missing) :
      TargetVerdict t fields own (.error (.because (.validation (.referenceNotFound missing))))
  | itself {directory : DirectoryId} (complete : t.Complete fields) (named : own = some directory)
      (pointed : PointAt fields directory) :
      TargetVerdict t fields own (.error (.because (.validation (.selfReference directory))))
  | passed (complete : t.Complete fields) (foreign : ∀ id, PointAt fields id → own ≠ some id) :
      TargetVerdict t fields own (.ok ())

theorem lacks_missingTargets (t : Tables) (fields : List FieldDefinition) :
    t.Lacks fields (t.missingTargets (referenceTargets fields)) where
  ascending := by
    refine List.Pairwise.filter _ ((Keyed.distinct_ascending _).imp fun {a b} below => ?_)
    rwa [DirectoryId.compare_def, compare_lt_iff_lt] at below
  exact id := by
    rw [missingTargets, List.mem_filter, mem_referenceTargets_iff_pointAt, Bool.not_eq_true']

theorem Lacks.unique {missing others : List DirectoryId} (all : t.Lacks fields missing)
    (also : t.Lacks fields others) : missing = others := by
  have ascends {l : List DirectoryId} (lacks : t.Lacks fields l) :
      l.Pairwise fun a b => compare a b = .lt := by
    refine lacks.ascending.imp fun {a b} below => ?_
    rwa [DirectoryId.compare_def, compare_lt_iff_lt]
  exact Keyed.eq_of_ascending (ascends all) (ascends also) fun id => (all.exact id).trans (also.exact id).symm

theorem missingTargets_eq_nil_iff_complete :
    t.missingTargets (referenceTargets fields) = [] ↔ t.Complete fields := by
  rw [missingTargets_eq_nil_iff]
  exact forall_congr' fun id => imp_congr mem_referenceTargets_iff_pointAt Iff.rfl

theorem Complete.not_absent (complete : t.Complete fields) {id : DirectoryId} (pointed : PointAt fields id) :
    t.directories.contains id ≠ false := by
  rw [complete id pointed]
  decide

/-- There is one verdict. -/
theorem TargetVerdict.unique {own : Option DirectoryId} {outcome other : Except (Stop ServiceError) Unit}
    (verdict : t.TargetVerdict fields own outcome) (also : t.TargetVerdict fields own other) :
    other = outcome := by
  cases verdict with
  | missing pointed absent all =>
      cases also with
      | missing _ _ others => rw [all.unique others]
      | itself complete | passed complete => exact absurd absent (complete.not_absent pointed)
  | itself complete named pointed =>
      cases also with
      | missing elsewhere absent => exact absurd absent (complete.not_absent elsewhere)
      | itself _ again =>
          rw [named] at again
          cases again
          rfl
      | passed _ foreign => exact absurd named (foreign _ pointed)
  | passed complete foreign =>
      cases also with
      | missing pointed absent => exact absurd absent (complete.not_absent pointed)
      | itself _ named pointed => exact absurd named (foreign _ pointed)
      | passed => rfl

/-- Missing targets are the verdict whether or not the directory has an id. -/
theorem targetVerdict_of_missing (own : Option DirectoryId)
    (incomplete : t.missingTargets (referenceTargets fields) ≠ []) :
    t.TargetVerdict fields own
      (.error (.because (.validation (.referenceNotFound (t.missingTargets (referenceTargets fields)))))) := by
  have all := t.lacks_missingTargets fields
  rcases List.exists_mem_of_ne_nil _ incomplete with ⟨id, listed⟩
  rcases (all.exact id).mp listed with ⟨pointed, absent⟩
  exact .missing pointed absent all

theorem targetVerdict_targetsOutcome (t : Tables) (fields : List FieldDefinition) :
    t.TargetVerdict fields none (t.targetsOutcome (referenceTargets fields)) := by
  unfold targetsOutcome
  split
  · next empty =>
    have complete := missingTargets_eq_nil_iff_complete.mp (List.isEmpty_iff.mp empty)
    exact .passed complete fun _ _ same => by cases same
  · next nonempty => exact targetVerdict_of_missing none (by simpa using nonempty)

theorem targetVerdict_changeOutcome (t : Tables) (directory : DirectoryId) (fields : List FieldDefinition) :
    t.TargetVerdict fields (some directory) (t.changeOutcome directory (referenceTargets fields)) := by
  unfold changeOutcome
  by_cases empty : t.missingTargets (referenceTargets fields) = []
  · have complete := missingTargets_eq_nil_iff_complete.mp empty
    rw [targetsOutcome_eq_ok_iff.mpr empty]
    dsimp only
    split
    · next pointed => exact .itself complete rfl (mem_referenceTargets_iff_pointAt.mp pointed)
    · next foreign =>
      refine .passed complete fun id pointed same => ?_
      cases same
      exact foreign (mem_referenceTargets_iff_pointAt.mpr pointed)
  · rw [targetsOutcome, if_neg (by simpa using empty)]
    exact targetVerdict_of_missing (some directory) empty

end Tables

namespace References

theorem run_checkCreation (t : Tables) (fields : List FieldDefinition) :
    (checkCreation fields).run Tables.answer t = (t.targetsOutcome (referenceTargets fields), t) := by
  have reads (c : StoreCall) (_ : c.isWrite = false) : anyCall t c := trivial
  let ends (outcome : Except (Stop ServiceError) Unit) (after : Tables) : Prop :=
    (outcome, after) = (t.targetsOutcome (referenceTargets fields), t)
  exact ((meets_checkCreation ends reads fields).mpr rfl).run

theorem run_checkChange (t : Tables) (directory : DirectoryId) (fields : List FieldDefinition) :
    (checkChange directory fields).run Tables.answer t =
      (t.changeOutcome directory (referenceTargets fields), t) := by
  have reads (c : StoreCall) (_ : c.isWrite = false) : anyCall t c := trivial
  let ends (outcome : Except (Stop ServiceError) Unit) (after : Tables) : Prop :=
    (outcome, after) = (t.changeOutcome directory (referenceTargets fields), t)
  exact ((meets_checkChange ends reads directory fields).mpr rfl).run

/-- On any tables the two checks of targets end with their verdicts.  Other lists with the same reference
fields, in another order, with repetitions, or among other fields of other types, have the same verdicts. -/
theorem checkTargets_verdict (t : Tables) (directory : DirectoryId) (fields : List FieldDefinition) :
    ∃ created changed,
      (checkCreation fields).run Tables.answer t = (created, t) ∧
      (checkChange directory fields).run Tables.answer t = (changed, t) ∧
      (∀ outcome, t.TargetVerdict fields none outcome ↔ outcome = created) ∧
      (∀ outcome, t.TargetVerdict fields (some directory) outcome ↔ outcome = changed) ∧
      ∀ others, (∀ field, field.type = .reference → (field ∈ others ↔ field ∈ fields)) →
        (checkCreation others).run Tables.answer t = (created, t) ∧
        (checkChange directory others).run Tables.answer t = (changed, t) := by
  have creation := t.targetVerdict_targetsOutcome fields
  have change := t.targetVerdict_changeOutcome directory fields
  refine ⟨_, _, run_checkCreation t fields, run_checkChange t directory fields, fun outcome => ?_,
    fun outcome => ?_, fun others same => ?_⟩
  · exact ⟨creation.unique, fun same => same ▸ creation⟩
  · exact ⟨change.unique, fun same => same ▸ change⟩
  · have targets := referenceTargets_eq_of_pointAt (pointAt_iff_of_mem_iff same)
    rw [run_checkCreation, run_checkChange, targets]
    exact ⟨rfl, rfl⟩

end References
end RecordDirectory
