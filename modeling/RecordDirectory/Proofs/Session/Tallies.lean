import Mathlib.Algebra.BigOperators.Group.Finset.Basic
import Mathlib.Algebra.GroupWithZero.Nat
import RecordDirectory.Proofs.Session.Identities
import RecordDirectory.Proofs.Session.Refusals
import RecordDirectory.Proofs.Store.Listed

namespace RecordDirectory

open RecordDirectory.Task

/-!
# The counts of the listing

The listing of directories counts the records of all directories in one pass over the records, whereas the
records of one directory are found by a filter.  Whatever a session has been through, the two agree: a
directory is listed with as many records as its own listing has, on however many pages (`tallies_of_run`).

That the counts add up to the number of records needs more.  A record that is owned by no stored directory
would be missing from the sum, and one whose directory is stored twice would be in it twice.
-/

namespace Tables

variable {t : Tables}

theorem total_query (t : Tables) (predicate : Predicate) (window : Option PageRequest) :
    (t.query predicate window).total = (t.matching predicate).length := by
  cases window <;> rfl

theorem length_matching_directoryIs (t : Tables) (id : DirectoryId) :
    (t.matching (.directoryIs id)).length = t.recordCount id := by
  rw [matching, recordCount, List.countP_eq_length_filter]
  rfl

/-- Every listed key is counted once, where the keys to count are distinct and none is left out. -/
private theorem sum_count_eq_length {κ : Type} [DecidableEq κ] {keys listed : List κ} (distinct : keys.Nodup)
    (covered : ∀ key ∈ listed, key ∈ keys) : (keys.map fun key => listed.count key).sum = listed.length := by
  have within : ∀ key ∈ (listed : Multiset κ), key ∈ keys.toFinset := by
    intro key member
    exact List.mem_toFinset.mpr (covered key member)
  have counted := Multiset.sum_count_eq_card within
  simpa only [Multiset.coe_count, Multiset.coe_card, List.sum_toFinset _ distinct] using counted

/-- No record is left uncounted, and none is counted twice. -/
theorem Sound.sum_recordCount (sound : t.Sound) :
    (t.directories.values.map fun directory => t.recordCount directory.id).sum = t.records.size := by
  have distinct : (t.directories.values.map Directory.id).Nodup := by
    rw [List.Nodup, List.pairwise_map]
    refine sound.directories_ascend.imp fun {directory other} below same => ?_
    rw [same] at below
    exact Int.lt_irrefl _ below
  have owned : ∀ owner ∈ t.records.values.map Record.directory, owner ∈ t.directories.values.map Directory.id := by
    intro owner listed
    rcases List.mem_map.mp listed with ⟨record, member, rfl⟩
    have contained := sound.owner_stored (sound.get?_of_mem_records member)
    rcases Keyed.contains_iff.mp contained with ⟨directory, stored⟩
    exact List.mem_map.mpr ⟨directory, Keyed.mem_values_iff.mpr ⟨_, stored⟩, sound.directory_id stored⟩
  have counted := sum_count_eq_length distinct owned
  rw [List.map_map, List.length_map] at counted
  simp only [recordCount_eq_count]
  exact counted.trans (List.length_map _)

end Tables

namespace Operation

variable {t : Tables} {directory : Directory}

/-- One page of the records of a stored directory is a query for them. -/
theorem run_listRecords (stored : t.directories.get? directory.id = some directory) (search : Option String)
    (request : PageRequest) :
    (listRecords directory.id search request).task.run Tables.answer t =
      (.ok (.page (t.query (.inDirectory directory.id search directory.fields) (some request))), t) := by
  have reads (c : StoreCall) (_ : c.isWrite = false) : anyCall t c := trivial
  suffices meets : Meets anyCall (fun outcome after => (outcome, after) = _)
      (listRecords directory.id search request).task t from meets.run
  rw [task, meets_map]
  unfold Service.listRecords
  rw [meets_bind, Service.meets_getDirectory _ reads, stored]
  exact (meets_call_ok (c := .queryRecords _ _) rfl _).mpr ⟨trivial, rfl⟩

/-- All records of a stored directory are the items of a query without a window. -/
theorem run_listAllRecords (stored : t.directories.get? directory.id = some directory) (search : Option String) :
    (listAllRecords directory.id search).task.run Tables.answer t =
      (.ok (.records (t.query (.inDirectory directory.id search directory.fields) none).items), t) := by
  have reads (c : StoreCall) (_ : c.isWrite = false) : anyCall t c := trivial
  suffices meets : Meets anyCall (fun outcome after => (outcome, after) = _)
      (listAllRecords directory.id search).task t from meets.run
  rw [task, meets_map]
  unfold Service.listAllRecords
  rw [meets_bind, Service.meets_getDirectory _ reads, stored]
  dsimp only
  rw [continues_ok, meets_bind]
  exact (meets_call_ok (c := .queryRecords _ _) rfl _).mpr ⟨trivial, (meets_pure _ _ _).mpr rfl⟩

end Operation

namespace Session

theorem step_of_run {session : Session} {operation : Operation} {outcome : Outcome} {after : Tables}
    (ran : operation.task.run Tables.answer session.working = (outcome, after)) :
    session.step (.run operation) = (outcome, { session with working := after }) := by
  rw [step, ran]

/-- What a session answers about its directories and how many records each of them has. -/
structure Tallies (session : Session) (summaries : List DirectorySummary) : Prop where
  answer : session.step (.run .listDirectories) = (.ok (.summaries summaries), session)
  store : session.step (.run (.store .listDirectories)) = (.ok (.summaries summaries), session)
  ascending : summaries.Pairwise fun summary other => summary.directory.id.number < other.directory.id.number
  stored : ∀ summary ∈ summaries,
    session.working.directories.get? summary.directory.id = some summary.directory
  listed : ∀ id directory, session.working.directories.get? id = some directory →
    ∃! summary, summary ∈ summaries ∧ summary.directory = directory
  fields : ∀ summary ∈ summaries, summary.fieldCount = summary.directory.fields.length
  paged : ∀ summary ∈ summaries, ∀ request, ∃ page,
    session.step (.run (.listRecords summary.directory.id none request)) = (.ok (.page page), session) ∧
      page.total = summary.recordCount
  unpaged : ∀ summary ∈ summaries, ∃ records,
    session.step (.run (.listAllRecords summary.directory.id none)) = (.ok (.records records), session) ∧
      records.length = summary.recordCount
  sum : (summaries.map DirectorySummary.recordCount).sum = session.working.records.size

/-- After any run the listing of directories agrees with all listings of records. -/
theorem tallies_of_run (steps : List Step) :
    ∃ summaries, (start.steps steps).2.Tallies summaries := by
  have sound := (sound_start.steps steps).working
  generalize (start.steps steps).2 = session at sound ⊢
  have member : ∀ summary, summary ∈ session.working.summaries ↔ ∃ directory ∈ session.working.directories.values,
      directory.summary (session.working.recordCount directory.id) = summary := by
    intro summary
    rw [Tables.summaries_eq, List.mem_map]
  refine ⟨session.working.summaries, rfl, rfl, ?_, ?_, ?_, ?_, ?_, ?_, ?_⟩
  · rw [Tables.summaries_eq, List.pairwise_map]
    exact sound.directories_ascend
  · intro summary listed
    rcases (member summary).mp listed with ⟨directory, among, rfl⟩
    exact sound.get?_of_mem_directories among
  · intro id directory stored
    have among : directory ∈ session.working.directories.values := Keyed.mem_values_iff.mpr ⟨id, stored⟩
    refine ⟨_, ⟨(member _).mpr ⟨directory, among, rfl⟩, rfl⟩, ?_⟩
    rintro other ⟨otherListed, rfl⟩
    rcases (member other).mp otherListed with ⟨directory, _, rfl⟩
    rfl
  · intro summary listed
    rcases (member summary).mp listed with ⟨directory, _, rfl⟩
    rfl
  · intro summary listed request
    rcases (member summary).mp listed with ⟨directory, among, rfl⟩
    have stored := sound.get?_of_mem_directories among
    refine ⟨_, step_of_run (Operation.run_listRecords stored none request), ?_⟩
    exact (Tables.total_query ..).trans (Tables.length_matching_directoryIs ..)
  · intro summary listed
    rcases (member summary).mp listed with ⟨directory, among, rfl⟩
    have stored := sound.get?_of_mem_directories among
    refine ⟨_, step_of_run (Operation.run_listAllRecords stored none), ?_⟩
    exact Tables.length_matching_directoryIs ..
  · rw [Tables.summaries_eq, List.map_map]
    exact sound.sum_recordCount

end Session
end RecordDirectory
