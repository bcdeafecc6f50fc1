import RecordDirectory.Proofs.Keyed.Values
import RecordDirectory.Proofs.Sql.Conversation
import RecordDirectory.Proofs.Store.Checks
import RecordDirectory.Proofs.Typing
import RecordDirectory.Service

namespace RecordDirectory
namespace Sql

open RecordDirectory.Task

/-!
# What a database is asked about references

Before a directory or a record is stored, its references are looked up in bulk: the targets of all fields at
once, or the owners of all records that values refer to.  Here it is said what such a look-up has established
when the service goes on behind it, whatever the database has replied.  There is no look-up where there is
nothing to look up, there is one otherwise, and its reply lets every target or reference pass.

The reply to a look-up of owners is read as a map, so of several rows for one record the last one counts.
-/

/-! ## The statements of the checks -/

def directoryQuery (id : DirectoryId) : Query :=
  ⟨selectRows .directories directoryColumns (idIs 1), [.integer id.number]⟩

def recordQuery (id : RecordId) : Query :=
  ⟨selectRows .records recordColumns (idIs 1), [.integer id.number]⟩

def existingQuery (ids : List DirectoryId) : Query :=
  ⟨selectRows .directories ["id"] (idIsAny 1), [.integers (ids.map DirectoryId.number)]⟩

def ownersQuery (ids : List RecordId) : Query :=
  ⟨selectRows .records ["id", "directory_id"] (idIsAny 1), [.integers (ids.map RecordId.number)]⟩

/-! ## What the replies establish -/

/-- A database maps a record to a directory; of several rows for one record the last counts. -/
def LastOwner (owners : List (RecordId × DirectoryId)) (id : RecordId) (directory : DirectoryId) : Prop :=
  ∃ before after, owners = before ++ (id, directory) :: after ∧ id ∉ after.map Prod.fst

/-- Every reference in values has a field, and it has an owner that each field of its name points at. -/
def BorneOut (owners : List (RecordId × DirectoryId)) (fields : List FieldDefinition) (values : Values) :
    Prop :=
  ∀ name id, values.get? name = some (.reference id) →
    (∃ field ∈ fields, field.name = name) ∧
      ∀ field ∈ fields, field.name = name →
        ∃ target, field.referenceTarget? = some target ∧ LastOwner owners id target

/-- The records that values refer to, each of them once and in ascending order. -/
structure ReferencesOf (values : Values) (ids : List RecordId) : Prop where
  nonempty : ids ≠ []
  ascending : ids.Pairwise fun a b => a.number < b.number
  held : ∀ id, id ∈ ids ↔ ∃ name, values.get? name = some (.reference id)

/-- The look-up of the references in values: none where there are none, and else a single one. -/
inductive OwnersRead (fields : List FieldDefinition) (values : Values) : List Exchange → Prop
  | unasked (unreferenced : ∀ name id, values.get? name ≠ some (.reference id)) : OwnersRead fields values []
  | asked {ids : List RecordId} {rows : ResultSet} {owners : List (RecordId × DirectoryId)}
      (references : ReferencesOf values ids) (decoded : rows.all Row.owner = .ok owners)
      (borneOut : BorneOut owners fields values) : OwnersRead fields values [⟨ownersQuery ids, .ok rows⟩]

/-- The look-up of the targets of fields: none where there are none, and else a single one. -/
inductive TargetsRead (targets : List DirectoryId) : List Exchange → Prop
  | unasked (untargeted : targets = []) : TargetsRead targets []
  | asked {rows : ResultSet} {found : List Int} (decoded : rows.all (·.integerAt 0) = .ok found)
      (existing : ∀ id ∈ targets, id.number ∈ found) : TargetsRead targets [⟨existingQuery targets, .ok rows⟩]

/-! ## Exchanges without a write -/

/-- At most so many exchanges, and no write among them. -/
structure Reading (bound : Nat) (exchanges : List Exchange) : Prop where
  few : exchanges.length ≤ bound
  unwriting : ∀ exchange ∈ exchanges, exchange.query.statement.isWrite = false

namespace Reading

variable {m n : Nat} {first second : List Exchange}

theorem nil : Reading n [] :=
  ⟨Nat.zero_le n, fun _ listed => absurd listed List.not_mem_nil⟩

theorem append (left : Reading m first) (right : Reading n second) : Reading (m + n) (first ++ second) where
  few := by
    rw [List.length_append]
    exact Nat.add_le_add left.few right.few
  unwriting exchange listed :=
    (List.mem_append.mp listed).elim (left.unwriting exchange) (right.unwriting exchange)

theorem mono (reading : Reading m first) (below : m ≤ n) : Reading n first :=
  ⟨reading.few.trans below, reading.unwriting⟩

theorem single {query : Query} {reply : Except Failure ResultSet} (read : query.statement.isWrite = false) :
    Reading 1 [⟨query, reply⟩] :=
  ⟨Nat.le_refl 1, fun _ listed => List.mem_singleton.mp listed ▸ read⟩

end Reading

theorem OwnersRead.reading {fields : List FieldDefinition} {values : Values} {lookups : List Exchange}
    (owners : OwnersRead fields values lookups) : Reading 1 lookups := by
  cases owners with
  | unasked => exact .nil
  | asked => exact .single rfl

theorem TargetsRead.reading {targets : List DirectoryId} {lookups : List Exchange}
    (read : TargetsRead targets lookups) : Reading 1 lookups := by
  cases read with
  | unasked => exact .nil
  | asked => exact .single rfl

/-! ## What the checks send -/

namespace References

variable {may : List Exchange → Query → Prop} {ends : Unit → List Exchange → Prop} {log : List Exchange}

open RecordDirectory.References

/-- A check of targets asks for all of them, and goes on if all of them are replied. -/
theorem sends_checkTargets {targets : List DirectoryId} (distinct : Keyed.distinct targets = targets)
    (ask : may log (existingQuery targets))
    (rest : ∀ lookups, TargetsRead targets lookups → ends () (log ++ lookups)) :
    Sends may ends (checkTargets targets) log := by
  unfold checkTargets
  split
  · next untargeted =>
    rw [sends_pure, ← List.append_nil log]
    exact rest [] (.unasked (List.isEmpty_iff.mp untargeted))
  · rw [sends_bind]
    refine (sends_call (c := .existingDirectories targets) rfl _).mpr ⟨distinct.symm ▸ ask, ?_⟩
    intro rows existing decoded
    rcases of_map_eq_ok decoded with ⟨found, read, rfl⟩
    dsimp only
    split
    · next present =>
      rw [sends_pure]
      refine rest _ ?_
      rw [distinct]
      refine .asked read fun id listed => ?_
      have known : ∀ id ∈ targets, ∃ n ∈ found, DirectoryId.mk n = id := by
        simpa [missing, Keyed.mem_distinct] using present
      rcases known id listed with ⟨n, member, rfl⟩
      exact member
    · exact sends_fail _ ends

/-- A check of a changed directory does the same, and goes on only if the directory is none of the targets. -/
theorem sends_checkChange {id : DirectoryId} {fields : List FieldDefinition}
    (ask : may log (existingQuery (FieldDefinition.referenceTargets fields)))
    (rest : ∀ lookups, TargetsRead (FieldDefinition.referenceTargets fields) lookups →
      id ∉ FieldDefinition.referenceTargets fields → ends () (log ++ lookups)) :
    Sends may ends (checkChange id fields) log := by
  unfold checkChange
  rw [sends_bind]
  refine sends_checkTargets (Keyed.distinct_distinct _) ask fun lookups targets => ?_
  split
  · exact sends_fail _ ends
  · next other => exact (sends_pure _ _).mpr (rest lookups targets other)

section Collected

variable {fields : List FieldDefinition} {values : Values} {references : List Reference}
variable (collected : collect values fields = .ok references)
variable (named : ∀ name id, values.get? name = some (.reference id) → ∃ field ∈ fields, field.name = name)

include collected named

/-- References without a fault have owners that the fields point at. -/
theorem borneOut_of_collect {owners : List (RecordId × DirectoryId)}
    (faultless : references.findSome? (Reference.fault? (Keyed.ofList owners)) = none) :
    BorneOut owners fields values := by
  intro name id held
  refine ⟨named name id held, ?_⟩
  rintro field listed rfl
  rcases mem_of_collect collected listed held with ⟨target, pointed, member⟩
  refine ⟨target, pointed, Keyed.last_of_get?_ofList ?_⟩
  have sound := List.findSome?_eq_none_iff.mp faultless _ member
  unfold Reference.fault? at sound
  split at sound
  · cases sound
  · next actual owned =>
    split at sound
    · next same => exact owned.trans (congrArg some same)
    · cases sound

/-- The records that a check looks up are those that the values refer to. -/
theorem referencesOf_collect (nonempty : references ≠ []) :
    ReferencesOf values (Keyed.distinct (references.map Reference.record)) where
  nonempty empty := by
    rcases List.exists_mem_of_ne_nil _ nonempty with ⟨reference, member⟩
    have listed := Keyed.mem_distinct.mpr (List.mem_map_of_mem (f := Reference.record) member)
    rw [empty] at listed
    cases listed
  ascending := (Keyed.distinct_ascending _).imp fun {a b} below => by
    rwa [RecordId.compare_def, compare_lt_iff_lt] at below
  held id := by
    rw [Keyed.mem_distinct, List.mem_map]
    constructor
    · rintro ⟨reference, member, rfl⟩
      exact ⟨reference.field, held_of_collect collected member⟩
    · rintro ⟨name, held⟩
      rcases named name id held with ⟨field, listed, rfl⟩
      rcases mem_of_collect collected listed held with ⟨target, _, member⟩
      exact ⟨_, member, rfl⟩

end Collected

/-- A check of references asks for the owners of all records that values refer to, and goes on if they bear
the references out. -/
theorem sends_checkValues {fields : List FieldDefinition} {values : Values}
    (named : ∀ name id, values.get? name = some (.reference id) → ∃ field ∈ fields, field.name = name)
    (ask : ∀ ids, ReferencesOf values ids → may log (ownersQuery ids))
    (rest : ∀ lookups, OwnersRead fields values lookups → ends () (log ++ lookups)) :
    Sends may ends (checkValues fields values) log := by
  unfold checkValues
  rw [sends_bind, sends_validated]
  intro references collected
  split
  · next empty =>
    rw [List.isEmpty_iff.mp empty] at collected
    rw [sends_pure, ← List.append_nil log]
    refine rest [] (.unasked fun name id held => ?_)
    rcases named name id held with ⟨field, listed, rfl⟩
    rcases mem_of_collect collected listed held with ⟨target, _, member⟩
    cases member
  · next nonempty =>
    have referred := referencesOf_collect collected named fun empty => nonempty (List.isEmpty_iff.mpr empty)
    -- The statement names each id once, whatever it is asked about, and these ids are distinct already.
    have distinct := Keyed.distinct_distinct (references.map Reference.record)
    generalize Keyed.distinct (references.map Reference.record) = ids at referred distinct
    rw [sends_bind]
    refine (sends_call (c := .recordOwners ids) rfl _).mpr ⟨distinct.symm ▸ ask ids referred, ?_⟩
    intro rows owners decoded
    rcases of_map_eq_ok decoded with ⟨pairs, read, rfl⟩
    split
    · next faultless =>
      rw [sends_pure]
      refine rest _ ?_
      rw [distinct]
      exact .asked referred read (borneOut_of_collect collected named faultless)
    · exact sends_fail _ ends

end References

namespace Service

open RecordDirectory.Service

variable {may : List Exchange → Query → Prop} {log : List Exchange}

private theorem forall_found_iff {α : Type} {result : Except StoreError (Option α)} {property : α → Prop} :
    (∀ reply, result = .ok reply → ∀ a, reply = some a → property a) ↔
      ∀ a, result = .ok (some a) → property a := by
  constructor
  · intro each a found
    exact each (some a) found a rfl
  · rintro each _ found a rfl
    exact each a found

theorem sends_getDirectory (ends : Directory → List Exchange → Prop) (id : DirectoryId) :
    Sends may ends (getDirectory id) log ↔
      may log (directoryQuery id) ∧ ∀ rows directory, rows.first? Row.directory = .ok (some directory) →
        ends directory (log ++ [⟨directoryQuery id, .ok rows⟩]) := by
  have asked : plan (.getDirectory id) = .single (directoryQuery id) (·.first? Row.directory) := rfl
  unfold getDirectory
  rw [sends_bind, sends_call asked]
  simp only [sends_found, forall_found_iff]

theorem sends_getRecord (ends : Record → List Exchange → Prop) (id : RecordId) :
    Sends may ends (getRecord id) log ↔
      may log (recordQuery id) ∧ ∀ rows record, rows.first? Row.record = .ok (some record) →
        ends record (log ++ [⟨recordQuery id, .ok rows⟩]) := by
  have asked : plan (.getRecord id) = .single (recordQuery id) (·.first? Row.record) := rfl
  unfold getRecord
  rw [sends_bind, sends_call asked]
  simp only [sends_found, forall_found_iff]

theorem sends_checkedValues {ends : Values → List Exchange → Prop} {directory : Directory} {raw : RawValues}
    (ask : ∀ values ids, Typing.typeValues directory.fields raw = .ok values → ReferencesOf values ids →
      may log (ownersQuery ids))
    (rest : ∀ values lookups, Typing.typeValues directory.fields raw = .ok values →
      OwnersRead directory.fields values lookups → ends values (log ++ lookups)) :
    Sends may ends (checkedValues directory raw) log := by
  unfold checkedValues
  rw [sends_bind, sends_settled]
  intro values typed
  rw [sends_bind]
  refine References.sends_checkValues (fun name id held => ?_) (fun ids => ask values ids typed)
    fun lookups owners => (sends_pure _ _).mpr (rest values lookups typed owners)
  rcases Typing.typeField_of_get? typed held with ⟨field, listed, same, _⟩
  exact ⟨field, listed, same⟩

end Service

end Sql
end RecordDirectory
