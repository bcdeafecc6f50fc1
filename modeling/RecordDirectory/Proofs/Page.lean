import RecordDirectory.Page

namespace RecordDirectory
namespace Page

/-!
# Walks through pages

What a page shows is said position by position: at each position of the window the item of the listing, where
there is one.  A reader who knows nothing of the listing asks for one page after another, each from behind
the items that it has been given, for as long as there is said to be more.

Where every page shows the same listing and no window is empty, such a walk ends, and the pages that it has
passed are the listing, without gaps and without repetitions (`Walks`).  An empty window would be the only
reason not to get on, since a page with no item in it is otherwise behind the end of the listing.
-/

variable {α : Type}

/-- A page shows the window of a listing that was asked for, and tells whether the listing goes on. -/
structure Shows (page : Page α) (request : PageRequest) (listing : List α) : Prop where
  item : ∀ i, page.items[i]? = if i < request.limit then listing[request.offset + i]? else none
  total : page.total = listing.length
  hasMore : page.hasMore? = some (listing[request.offset + page.items.length]?).isSome

/-- Pages that are asked for one after another, until there is no more. -/
inductive Walk (ask : Nat → Page α) : Nat → List (Page α) → Prop
  | last {offset : Nat} (ended : (ask offset).hasMore? = some false) : Walk ask offset [ask offset]
  | next {offset : Nat} {rest : List (Page α)} (more : (ask offset).hasMore? = some true)
      (followed : Walk ask (offset + (ask offset).items.length) rest) : Walk ask offset (ask offset :: rest)

/-- Asking for pages comes to an end, and the pages are the listing. -/
structure Walks (ask : Nat → Page α) (listing : List α) : Prop where
  ends : ∃ pages, Walk ask 0 pages
  items : ∀ pages, Walk ask 0 pages → pages.flatMap Page.items = listing

namespace Shows

variable {page : Page α} {request : PageRequest} {listing : List α}

theorem items_eq (shows : page.Shows request listing) :
    page.items = (listing.drop request.offset).take request.limit := by
  apply List.ext_getElem?
  intro i
  rw [shows.item, List.getElem?_take, List.getElem?_drop]

/-- Where there is no more, the page reaches to the end of the listing. -/
theorem items_of_ended (shows : page.Shows request listing) (ended : page.hasMore? = some false) :
    page.items = listing.drop request.offset := by
  have reached : listing.length ≤ request.offset + page.items.length := by
    have told := shows.hasMore.symm.trans ended
    simpa using told
  rw [shows.items_eq] at reached ⊢
  rw [List.length_take, List.length_drop] at reached
  apply List.take_of_length_le
  rw [List.length_drop]
  omega

theorem finish_lt_of_more (shows : page.Shows request listing) (more : page.hasMore? = some true) :
    request.offset + page.items.length < listing.length := by
  have told := shows.hasMore.symm.trans more
  simpa using told

/-- Where there is more, the window is full. -/
theorem length_of_more (shows : page.Shows request listing) (more : page.hasMore? = some true) :
    page.items.length = request.limit := by
  have below := shows.finish_lt_of_more more
  rw [shows.items_eq, List.length_take, List.length_drop] at below ⊢
  omega

/-- Where there is more, the rest of the listing is behind the page. -/
theorem items_append_of_more (shows : page.Shows request listing) (more : page.hasMore? = some true) :
    page.items ++ listing.drop (request.offset + page.items.length) = listing.drop request.offset := by
  rw [shows.length_of_more more, ← List.drop_drop, shows.items_eq, List.take_append_drop]

end Shows

section Listing

variable {ask : Nat → Page α} {limit : Nat} {sort : SortOrder} {listing : List α}
variable (shows : ∀ offset, offset ≤ listing.length → (ask offset).Shows ⟨offset, limit, sort⟩ listing)

include shows

/-- From any offset on, the pages are what is left of the listing. -/
theorem Walk.flatMap_items {offset : Nat} {pages : List (Page α)} (walk : Walk ask offset pages)
    (within : offset ≤ listing.length) : pages.flatMap Page.items = listing.drop offset := by
  induction walk with
  | last ended => rw [List.flatMap_singleton, (shows _ within).items_of_ended ended]
  | next more _ inductionHypothesis =>
      have below := (shows _ within).finish_lt_of_more more
      rw [List.flatMap_cons, inductionHypothesis (Nat.le_of_lt below), (shows _ within).items_append_of_more more]

/-- Every page that is followed by another shortens what is left. -/
theorem exists_walk (positive : 0 < limit) {offset : Nat} (within : offset ≤ listing.length) :
    ∃ pages, Walk ask offset pages := by
  have shown := shows offset within
  cases more : (ask offset).hasMore? with
  | none => cases shown.hasMore.symm.trans more
  | some continued =>
      cases continued with
      | false => exact ⟨_, .last more⟩
      | true =>
          have below : offset + (ask offset).items.length < listing.length := shown.finish_lt_of_more more
          have filled : (ask offset).items.length = limit := shown.length_of_more more
          rcases exists_walk positive (Nat.le_of_lt below) with ⟨rest, followed⟩
          exact ⟨_, .next more followed⟩
termination_by listing.length - offset
decreasing_by omega

/-- Windows that are not empty lead through the listing. -/
theorem walks_of_shows (positive : 0 < limit) : Walks ask listing where
  ends := exists_walk shows positive (Nat.zero_le _)
  items _ walk := walk.flatMap_items shows (Nat.zero_le _)

end Listing

end Page
end RecordDirectory
