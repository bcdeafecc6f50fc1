import RecordDirectory.Proofs.Session.Pages
import RecordDirectory.Proofs.Sql.Agreement
import RecordDirectory.Proofs.Sql.Conversation
import RecordDirectory.Proofs.Sql.Texts
import RecordDirectory.Proofs.Stored.RoundTrip

namespace RecordDirectory

open Sql

/-!
# Pages that know what follows

Whether there is more is found by adding the number of items to the offset, in words of 64 bits.  Where the sum
fits, the answer is that of unbounded arithmetic; where it does not, there is none (`Page.exact_iff`).  Which of the
two it is depends on where a page comes from.

A page of the tables in memory shows a part of a listing, and the position behind it is no further than the end of
the listing or the offset.  So the sum always fits.  The form of a page is believed as it is, and it may list items
behind the last offset that there is.  A database is believed, too.  It is sent the greatest signed word in the place
of a greater offset, but the page keeps the offset that was asked for, and the rows of the reply are put behind that
one.

The last case takes a reply that no table could give, with rows behind the greatest signed word.  A database that
keeps to the window which it was sent does not get there (`Page.Source.contained_of_kept`), and the reference database
shows the pages that the tables in memory show (`Sql.Server.Serves.exact_page`).
-/

/-! ## Pages that a database replies to -/

namespace Sql

theorem ResultSet.length_of_decodeRows {α : Type} {decode : Row → Except StoreError α} {rows : List Row}
    {items : List α} (decoded : decodeRows decode rows = .ok items) : items.length = rows.length := by
  induction rows generalizing items with
  | nil =>
      cases decoded
      rfl
  | cons row rest inductionHypothesis =>
      rw [decodeRows] at decoded
      split at decoded
      · cases decoded
      · split at decoded
        · cases decoded
        · next later =>
          cases decoded
          exact congrArg Nat.succ (inductionHypothesis later)

/-- There is an item for every row. -/
theorem ResultSet.length_of_all {α : Type} {decode : Row → Except StoreError α} {result : ResultSet}
    {items : List α} (decoded : result.all decode = .ok items) : items.length = result.rows.length := by
  rw [length_of_decodeRows decoded, toRows, List.length_map]

/-- A script takes a plan as far as the first reply lets it. -/
theorem run_send {α : Type} (query : Query) (next : ResultSet → Plan α)
    (replies : List (Except Failure ResultSet)) (sent : List Query) :
    (Plan.send query next).run scripted ⟨replies, sent⟩ =
      match firstReply replies with
      | .ok rows => (next rows).run scripted ⟨replies.tail, sent ++ [query]⟩
      | .error failure => (.error failure.storeError, ⟨replies.tail, sent ++ [query]⟩) := by
  cases replies with
  | nil => rfl
  | cons reply rest => cases reply <;> rfl

/-- The number of rows in the first reply. -/
def rowsOf (replies : List (Except Failure ResultSet)) : Nat :=
  match firstReply replies with
  | .ok rows => rows.rows.length
  | .error _ => 0

/-- The offset of a window; all results together are behind none. -/
def offsetOf (window : Option PageRequest) : Nat :=
  (window.map PageRequest.offset).getD 0

/-- A page keeps the offset that was asked for, and has an item for each row of the first reply. -/
theorem finish_of_queryPlan {predicate : Predicate} {window : Option PageRequest}
    {replies : List (Except Failure ResultSet)} {page : Page Record}
    (replied : ((queryPlan predicate window).run scripted ⟨replies, []⟩).1 = .ok page) :
    page.offset + page.items.length = offsetOf window + rowsOf replies := by
  unfold rowsOf
  cases window with
  | none =>
      rw [queryPlan, Plan.single, run_send] at replied
      cases first : firstReply replies with
      | error failure =>
          rw [first] at replied
          cases replied
      | ok rows =>
          rw [first] at replied
          rcases of_map_eq_ok replied with ⟨items, decoded, rfl⟩
          exact congrArg (0 + ·) (ResultSet.length_of_all decoded)
  | some request =>
      rw [queryPlan, run_send] at replied
      cases first : firstReply replies with
      | error failure =>
          rw [first] at replied
          cases replied
      | ok rows =>
          simp only [first] at replied
          cases decoded : rows.all Row.record with
          | error error =>
              rw [decoded] at replied
              cases replied
          | ok items =>
              simp only [decoded, Plan.single, run_send] at replied
              split at replied
              · rcases of_map_eq_ok replied with ⟨total, _, rfl⟩
                exact congrArg (request.offset + ·) (ResultSet.length_of_all decoded)
              · cases replied

/-- A scripted run of a bare call is the run of its plan. -/
theorem outcome_runScripted_store (c : StoreCall) (replies : List (Except Failure ResultSet)) :
    (runScripted (.store c) replies).outcome =
      (((plan c).run scripted ⟨replies, []⟩).1.map c.toAnswer).mapError fun error => .because (.store error) := by
  change (Task.run (answer scripted) (.ask c fun reply => .done (.ok (c.toAnswer reply))) ⟨replies, []⟩).1 = _
  simp only [Task.run, answer]
  rcases (plan c).run scripted ⟨replies, []⟩ with ⟨result, after⟩
  cases result <;> rfl

theorem finish_of_runScripted {predicate : Predicate} {window : Option PageRequest}
    {replies : List (Except Failure ResultSet)} {page : Page Record}
    (answered : (runScripted (.store (.queryRecords predicate window)) replies).outcome = .ok (.page page)) :
    page.offset + page.items.length = offsetOf window + rowsOf replies := by
  rw [outcome_runScripted_store] at answered
  change (((queryPlan predicate window).run scripted ⟨replies, []⟩).1.map Answer.page).mapError _ = _ at answered
  cases result : ((queryPlan predicate window).run scripted ⟨replies, []⟩).1 with
  | error error =>
      rw [result] at answered
      cases answered
  | ok other =>
      rw [result] at answered
      cases answered
      exact finish_of_queryPlan result

end Sql

namespace Page

variable {α : Type}

/-! ## The answer of unbounded arithmetic -/

/-- It is told whether there is more, and this is what unbounded arithmetic says. -/
def Exact (page : Page α) : Prop :=
  ∃ more, page.hasMore? = some more ∧ (more = true ↔ page.offset + page.items.length < page.total)

theorem fits_of_hasMore? {page : Page α} {more : Bool} (told : page.hasMore? = some more) :
    page.offset + page.items.length < unsignedBound := by
  unfold hasMore? at told
  split at told
  · next fits => exact fits
  · cases told

/-- The sum is all that can go wrong. -/
theorem exact_iff {page : Page α} : page.Exact ↔ page.offset + page.items.length < unsignedBound := by
  constructor
  · rintro ⟨_, told, _⟩
    exact fits_of_hasMore? told
  · intro fits
    exact ⟨_, if_pos fits, decide_eq_true_iff⟩

/-! ## Where pages come from -/

/-- What a page is made from. -/
inductive Source where
  /-- The JSON form of a page. -/
  | form (value : Json)
  /-- Tables that are queried. -/
  | tables (t : Tables) (predicate : Predicate) (window : Option PageRequest)
  /-- The replies of a database to the statements of a query, one after the other. -/
  | database (predicate : Predicate) (window : Option PageRequest) (replies : List (Except Failure ResultSet))

/-- The position behind the items that a form lists. -/
def formFinish? (value : Json) : Option Nat := do
  let members ← Members.ofJson? 4 value
  let items ← members.required? "items" 0 Json.array?
  let offset ← members.required? "offset" 1 Json.unsigned64?
  some (offset + items.length)

namespace Source

/-- The source gives a page. -/
def Gives (page : Page Record) : Source → Prop
  | form value => Page.ofJson? value = some page
  | tables t predicate window =>
    ((Operation.store (.queryRecords predicate window)).task.run Tables.answer t).1 = .ok (.page page)
  | database predicate window replies =>
    (runScripted (.store (.queryRecords predicate window)) replies).outcome = .ok (.page page)

/-- The numbers of a request are words, and so is the number of all records in memory. -/
def Fits : Source → Prop
  | form _ => True
  | tables t _ window => t.records.values.length < unsignedBound ∧ ∀ request, window = some request → request.Fits
  | database _ window _ => ∀ request, window = some request → request.Fits

/-- The items that the source puts on a page are within 64 bits.  For tables nothing has to be asked. -/
def Contained : Source → Prop
  | form value => ∀ finish, formFinish? value = some finish → finish < unsignedBound
  | tables _ _ _ => True
  | database _ window replies => offsetOf window + rowsOf replies < unsignedBound

/-- In every run the ids bound the number of records. -/
theorem fits_of_run (steps : List Step) (predicate : Predicate) {window : Option PageRequest}
    (counted : (Session.start.steps steps).2.working.lastRecordId < signedBound)
    (fits : ∀ request, window = some request → request.Fits) :
    (tables (Session.start.steps steps).2.working predicate window).Fits := by
  refine ⟨?_, fits⟩
  have bounded := (Session.sound_start.steps steps).working.length_records_le
  unfold signedBound at counted
  unfold unsignedBound
  omega

/-- Replies that keep to the window are contained.  No table has more rows than there are ids, so behind the offset
that was sent there are no more than the rest of them. -/
theorem contained_of_kept {predicate : Predicate} {request : PageRequest}
    {replies : List (Except Failure ResultSet)} (fits : request.Fits)
    (kept : rowsOf replies ≤ greatestCount - min request.offset greatestCount) :
    (database predicate (some request) replies).Contained := by
  change request.offset + rowsOf replies < unsignedBound
  have within := fits.offset
  unfold greatestCount signedBound at kept
  unfold unsignedBound at within ⊢
  omega

end Source

theorem length_of_readAll? {read? : Json → Option α} {items : List Json} {as : List α}
    (read : Json.readAll? read? items = some as) : as.length = items.length := by
  induction items generalizing as with
  | nil =>
      cases read
      rfl
  | cons item rest inductionHypothesis =>
      rw [Json.readAll?] at read
      split at read
      · next later =>
        cases read
        exact congrArg Nat.succ (inductionHypothesis later)
      · cases read

theorem formFinish?_of_ofJson? {value : Json} {page : Page Record} (read : Page.ofJson? value = some page) :
    formFinish? value = some (page.offset + page.items.length) := by
  simp only [ofJson?, Option.bind_eq_bind, Option.bind_eq_some_iff, Option.some.injEq] at read
  rcases read with ⟨members, object, items, listed, offset, offsetRead, limit, _, total, _, rfl⟩
  rcases Option.bind_eq_some_iff.mp listed with ⟨content, present, list⟩
  rcases Option.bind_eq_some_iff.mp list with ⟨elements, array, elementsRead⟩
  have held : members.required? "items" 0 Json.array? = some elements :=
    Option.bind_eq_some_iff.mpr ⟨content, present, array⟩
  simp only [formFinish?, object, held, offsetRead, Option.bind_eq_bind, Option.bind_some,
    length_of_readAll? elementsRead]

/-- The position behind a page of tables is that behind the listing or the offset itself. -/
theorem exact_query {t : Tables} {predicate : Predicate} {window : Option PageRequest}
    (held : t.records.values.length < unsignedBound) (fits : ∀ request, window = some request → request.Fits) :
    (t.query predicate window).Exact := by
  have listed (sort : SortOrder) : (t.listing predicate sort).length ≤ t.records.values.length := by
    rw [t.length_listing]
    exact List.length_filter_le ..
  rw [exact_iff]
  cases window with
  | none =>
      have whole : (t.query predicate none).offset + (t.query predicate none).items.length =
          (t.listing predicate .ascending).length := Nat.zero_add _
      rw [whole]
      exact Nat.lt_of_le_of_lt (listed .ascending) held
  | some request =>
      have shows := Tables.shows_query (Nat.lt_of_le_of_lt (listed request.sort) held) (fits request rfl).offset
      exact fits_of_hasMore? shows.hasMore

/-- Whether there is more is told as unbounded arithmetic has it exactly where the items are within 64 bits.  Those
of tables always are, those of a form where its offset and their number are so together, and those of a database
where the offset that was asked for and the rows of the first reply are. -/
theorem exact_iff_contained {source : Source} {page : Page Record} (fits : source.Fits) (given : source.Gives page) :
    page.Exact ↔ source.Contained := by
  cases source with
  | form value =>
      simp only [Source.Contained, formFinish?_of_ofJson? given, Option.some.injEq, forall_eq', exact_iff]
  | tables t predicate window =>
      cases given
      exact iff_of_true (exact_query fits.1 fits.2) trivial
  | database predicate window replies => rw [exact_iff, finish_of_runScripted given, Source.Contained]

/-- The page of one record behind an offset, without another match. -/
def loneRecord (offset : Nat) : Page Record :=
  ⟨[⟨⟨1⟩, ⟨1⟩, .empty⟩], offset, 1, 1⟩

/-- The replies that lead to this page: the row of the record, and its number. -/
def loneReplies : List (Except Failure ResultSet) :=
  [.ok ⟨recordColumns, [[.integer 1, .integer 1, .json (.object [])]], 1⟩, .ok ⟨["count"], [[.integer 1]], 1⟩]

/-- A row behind the last offset but one is believed, and nothing follows it. -/
theorem exact_of_last_row :
    let source := Source.database .always (some ⟨18446744073709551614, 1, .ascending⟩) loneReplies
    source.Fits ∧ source.Gives (loneRecord 18446744073709551614) ∧ (loneRecord 18446744073709551614).Exact := by
  intro source
  have fits : source.Fits := by
    rintro request ⟨⟩
    exact ⟨by decide, by decide⟩
  have given : source.Gives (loneRecord 18446744073709551614) := by
    change (runScripted _ _).outcome = _
    decide +kernel
  have contained : source.Contained := by
    change _ < unsignedBound
    decide
  exact ⟨fits, given, (exact_iff_contained fits given).mpr contained⟩

/-- Behind the last offset there is no position for an item, but a form and a reply can put one there.  Nothing
follows the page, and it does not say so. -/
theorem no_answer_behind_last_offset :
    (Source.form (loneRecord 18446744073709551615).toJson).Gives (loneRecord 18446744073709551615) ∧
      (Source.database .always (some ⟨18446744073709551615, 1, .ascending⟩) loneReplies).Gives
        (loneRecord 18446744073709551615) ∧
      (loneRecord 18446744073709551615).hasMore? = none ∧
      ¬(loneRecord 18446744073709551615).offset + (loneRecord 18446744073709551615).items.length <
        (loneRecord 18446744073709551615).total := by
  refine ⟨?_, ?_, by decide, by decide⟩
  · change Page.ofJson? _ = _
    decide +kernel
  · change (runScripted _ _).outcome = _
    decide +kernel

end Page

namespace Sql
namespace Server

/-- A database that mirrors tables shows exact pages, although it is sent a smaller offset than the page has. -/
theorem Serves.exact_page {arrangement : Arrangement} {committed : Content} {s : Server} {t : Tables}
    (sound : t.Sound) (idsFit : t.IdsFit) (serves : s.Serves committed t) (predicate : Predicate)
    {request : PageRequest} (fits : request.Fits) :
    ∃ page, ((queryPlan predicate (some request)).run (answer arrangement) s).1 = .ok page ∧ page.Exact := by
  refine ⟨t.query predicate (some request), ?_, Page.exact_query ?_ ?_⟩
  · exact (serves.agrees_pageOfRecords sound idsFit predicate request).1
  · have bounded := sound.length_records_le
    have counted := idsFit.record
    unfold signedBound at counted
    unfold unsignedBound
    omega
  · rintro other ⟨⟩
    exact fits

end Server
end Sql
end RecordDirectory
