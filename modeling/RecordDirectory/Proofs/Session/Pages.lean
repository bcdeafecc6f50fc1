import RecordDirectory.Proofs.Page
import RecordDirectory.Proofs.Session.Identities
import RecordDirectory.Proofs.Settings
import RecordDirectory.Proofs.Store.Listed

namespace RecordDirectory

/-!
# The listing behind the pages

Whatever a session has been through, there is one listing of the records that a predicate matches, in either
order of their ids, and every query is answered from it.  A page shows the window that was asked for, also
where the window begins behind the end, is empty, or reaches as far as 64 bits do.

Nothing is written between the pages of a walk.  The walk is then the whole listing for every page size from
one up, and for every page size that loaded settings make of the one that was asked for, zero included
(`pages_of_run`).

Only the counter of record ids has to be in its range.  It bounds the number of records, and with it every
position that a page has to name.
-/

/-- What comes first in an order. -/
def SortOrder.Precedes : SortOrder → RecordId → RecordId → Prop
  | .ascending, id, other => id.number < other.number
  | .descending, id, other => other.number < id.number

namespace Tables

variable {t : Tables} {predicate : Predicate} {sort : SortOrder}

/-- All records that a predicate matches, each of them once, in an order. -/
structure Lists (t : Tables) (predicate : Predicate) (sort : SortOrder) (listing : List Record) : Prop where
  member : ∀ record, record ∈ listing ↔
    t.records.get? record.id = some record ∧ predicate.holds record = true
  ordered : listing.Pairwise fun record other => sort.Precedes record.id other.id

/-- The matching records in an order. -/
def listing (t : Tables) (predicate : Predicate) : SortOrder → List Record
  | .ascending => t.matching predicate
  | .descending => (t.matching predicate).reverse

theorem Sound.lists_listing (sound : t.Sound) (predicate : Predicate) (sort : SortOrder) :
    t.Lists predicate sort (t.listing predicate sort) := by
  have member : ∀ record, record ∈ t.matching predicate ↔
      t.records.get? record.id = some record ∧ predicate.holds record = true := by
    intro record
    rw [matching, List.mem_filter]
    exact and_congr_left' ⟨sound.get?_of_mem_records, fun stored => Keyed.mem_values_iff.mpr ⟨_, stored⟩⟩
  have ascends : (t.matching predicate).Pairwise fun record other => record.id.number < other.id.number :=
    sound.records_ascend.filter _
  cases sort with
  | ascending => exact ⟨member, ascends⟩
  | descending =>
      refine ⟨fun record => ?_, List.pairwise_reverse.mpr ascends⟩
      rw [listing, List.mem_reverse, member]

theorem length_listing (t : Tables) (predicate : Predicate) (sort : SortOrder) :
    (t.listing predicate sort).length = (t.matching predicate).length := by
  cases sort with
  | ascending => rfl
  | descending => exact List.length_reverse

theorem Sound.length_listing_lt (sound : t.Sound) (counted : t.lastRecordId < signedBound) :
    (t.listing predicate sort).length < unsignedBound := by
  have selected : (t.matching predicate).length ≤ t.records.values.length := List.length_filter_le ..
  have bounded := sound.length_records_le
  rw [length_listing]
  unfold signedBound at counted
  unfold unsignedBound
  omega

theorem query_some (t : Tables) (predicate : Predicate) (request : PageRequest) :
    t.query predicate (some request) =
      { items := ((t.listing predicate request.sort).drop request.offset).take request.limit
        offset := request.offset
        limit := request.limit
        total := (t.listing predicate request.sort).length } := by
  rcases request with ⟨offset, limit, sort⟩
  rw [length_listing]
  cases sort <;> rfl

/-- The position behind a page is within 64 bits where its listing and its offset are. -/
theorem shows_query {request : PageRequest}
    (bounded : (t.listing predicate request.sort).length < unsignedBound)
    (within : request.offset < unsignedBound) :
    (t.query predicate (some request)).Shows request (t.listing predicate request.sort) := by
  rw [query_some]
  generalize t.listing predicate request.sort = listing at bounded
  refine ⟨fun i => ?_, rfl, ?_⟩
  · rw [List.getElem?_take, List.getElem?_drop]
  · have finish : request.offset + ((listing.drop request.offset).take request.limit).length <
        unsignedBound := by
      rw [List.length_take, List.length_drop]
      omega
    unfold Page.hasMore? Page.finish
    simp only
    rw [if_pos finish]
    refine congrArg some (Bool.eq_iff_iff.mpr ?_)
    rw [decide_eq_true_iff, isSome_getElem?]

end Tables

namespace Session

/-- One listing answers all queries with a predicate and an order. -/
structure Pages (session : Session) (predicate : Predicate) (sort : SortOrder) (listing : List Record) :
    Prop where
  lists : session.working.Lists predicate sort listing
  answer : ∀ window, session.step (.run (.store (.queryRecords predicate window))) =
    (.ok (.page (session.working.query predicate window)), session)
  shows : ∀ offset limit, offset < unsignedBound →
    (session.working.query predicate (some ⟨offset, limit, sort⟩)).Shows ⟨offset, limit, sort⟩ listing
  walks : ∀ limit, 0 < limit →
    Page.Walks (fun offset => session.working.query predicate (some ⟨offset, limit, sort⟩)) listing
  walks_loaded : ∀ settings : Settings, settings.Loaded → ∀ limit, Page.Walks
    (fun offset => session.working.query predicate (some (settings.pageRequest offset limit sort))) listing
  unpaged : sort = .ascending → (session.working.query predicate none).items = listing

/-- After any run there is a listing for every predicate and order. -/
theorem pages_of_run (steps : List Step) (predicate : Predicate) (sort : SortOrder)
    (counted : (start.steps steps).2.working.lastRecordId < signedBound) :
    ∃ listing, (start.steps steps).2.Pages predicate sort listing := by
  have sound := (sound_start.steps steps).working
  generalize (start.steps steps).2 = session at counted sound ⊢
  have bounded : (session.working.listing predicate sort).length < unsignedBound := sound.length_listing_lt counted
  have shows : ∀ offset limit, offset < unsignedBound →
      (session.working.query predicate (some ⟨offset, limit, sort⟩)).Shows ⟨offset, limit, sort⟩
        (session.working.listing predicate sort) :=
    fun _ _ within => Tables.shows_query bounded within
  have walks : ∀ limit, 0 < limit → Page.Walks
      (fun offset => session.working.query predicate (some ⟨offset, limit, sort⟩))
      (session.working.listing predicate sort) :=
    fun limit positive => Page.walks_of_shows
      (fun offset reached => shows offset limit (Nat.lt_of_le_of_lt reached bounded)) positive
  refine ⟨session.working.listing predicate sort, sound.lists_listing predicate sort, fun _ => rfl, shows, walks,
    fun settings loaded limit => ?_, ?_⟩
  · exact walks _ (loaded.usable.pageRequest_limit_pos 0 limit sort)
  · rintro rfl
    rfl

/-- Four records are created, and the third one is deleted again. -/
def gappedSteps : List Step :=
  [.run (.createDirectory default ⟨"Person", []⟩),
    .run (.createRecord ⟨1⟩ .empty),
    .run (.createRecord ⟨1⟩ .empty),
    .run (.createRecord ⟨1⟩ .empty),
    .commit,
    .run (.createRecord ⟨1⟩ .empty),
    .run (.deleteRecord ⟨3⟩)]

/-- The walks through what is left pass the three other records. -/
theorem pages_of_gapped_run :
    (start.steps gappedSteps).2.working.lastRecordId < signedBound ∧
      ∃ listing, listing.map (fun record => record.id.number) = [1, 2, 4] ∧
        (start.steps gappedSteps).2.Pages .always .ascending listing := by
  have counted : (start.steps gappedSteps).2.working.lastRecordId < signedBound := by decide +kernel
  rcases pages_of_run gappedSteps .always .ascending counted with ⟨listing, pages⟩
  refine ⟨counted, listing, ?_, pages⟩
  rw [← pages.unpaged rfl]
  decide +kernel

end Session
end RecordDirectory
