import RecordDirectory.Proofs.Sql.Lookups
import RecordDirectory.Proofs.Store.Effect

namespace RecordDirectory
namespace Sql

open RecordDirectory.Task

/-!
# What is sent behind what was replied

A service believes its database, but it checks what it is told before it writes.  `Checked` says of a
statement what the replies before it have established: a directory is stored with the targets of its fields
among those that exist, and a record with the values that its input has under the fields of a directory row,
each reference among them with an owner that its field points at.  This is a matter of the replies of one
step alone.  Whether these replies are true, or go together with those of an earlier step, is not asked.

The checks of one service are a few exchanges, so the conditions name them one by one: there is a row, or
two for a change of a record, and behind them at most one look-up.  A service therefore sends at most four
statements, and the number of its fields and references has no part in it.

`Disciplined` collects what holds of every service and every script of replies (`disciplined_runScripted`).
-/

/-! ## What is checked of a statement -/

namespace Statement

/-- A statement that puts content into a table. -/
def stores (table : Table) : Statement → Bool
  | .insert into _ _ _ | .update into _ _ => decide (into = table)
  | .select _ _ _ _ _ | .selectJoined _ | .delete _ _ | .commit => false

/-- A statement that asks for the directories of records. -/
def asksOwners : Statement → Bool
  | .select results _ _ _ _ => decide (results.map Expr.columnName = ["id", "directory_id"])
  | .selectJoined _ | .insert _ _ _ _ | .update _ _ _ | .delete _ _ | .commit => false

end Statement

/-- The rows that an operation has read before it types input: the directory whose fields the input is typed
under, and the number by which the statement that stores the values will name its row. -/
inductive RowsRead : Operation → List Exchange → Directory → RawValues → Int → Prop
  | created {id : DirectoryId} {raw : RawValues} {rows : ResultSet} {directory : Directory}
      (decoded : rows.first? Row.directory = .ok (some directory)) :
      RowsRead (.createRecord id raw) [⟨directoryQuery id, .ok rows⟩] directory raw directory.id.number
  | updated {id : RecordId} {raw : RawValues} {recordRows rows : ResultSet} {record : Record}
      {directory : Directory} (found : recordRows.first? Row.record = .ok (some record))
      (decoded : rows.first? Row.directory = .ok (some directory)) :
      RowsRead (.updateRecord id raw)
        [⟨recordQuery id, .ok recordRows⟩, ⟨directoryQuery record.directory, .ok rows⟩] directory raw
        id.number

/-- The values that a statement stores are those of the input, and their references are borne out. -/
inductive ValuesChecked (operation : Operation) : List Exchange → Query → Prop
  | intro {reads lookups : List Exchange} {directory : Directory} {raw : RawValues} {key : Int}
      {values : Values} {query : Query} (rows : RowsRead operation reads directory raw key)
      (typed : Typing.typeValues directory.fields raw = .ok values)
      (owners : OwnersRead directory.fields values lookups)
      (carries : query.parameters = [.integer key, .json values.toJson]) :
      ValuesChecked operation (reads ++ lookups) query

/-- The fields that a statement stores are those of the draft, and their targets exist.  A directory that is
changed is none of its targets. -/
inductive FieldsChecked : Operation → List Exchange → Query → Prop
  | created {code : DirectoryCode} {draft checked : DirectoryDraft} {lookups : List Exchange} {query : Query}
      (passed : draft.checkShape = .ok checked)
      (targets : TargetsRead (FieldDefinition.referenceTargets checked.fields) lookups)
      (carries : query.parameters =
        [.code code, .text checked.name, .json (FieldDefinition.listToJson checked.fields)]) :
      FieldsChecked (.createDirectory code draft) lookups query
  | updated {id : DirectoryId} {draft checked : DirectoryDraft} {rows : ResultSet} {directory : Directory}
      {lookups : List Exchange} {query : Query} (decoded : rows.first? Row.directory = .ok (some directory))
      (passed : draft.checkShape = .ok checked)
      (targets : TargetsRead (FieldDefinition.referenceTargets checked.fields) lookups)
      (other : id ∉ FieldDefinition.referenceTargets checked.fields)
      (carries : query.parameters = [.integer directory.id.number, .text checked.name,
        .json (FieldDefinition.listToJson checked.fields)]) :
      FieldsChecked (.updateDirectory id draft) (⟨directoryQuery id, .ok rows⟩ :: lookups) query

/-- The owners that a statement asks for are those of the references in typed values, and nothing but rows
has been read before. -/
inductive OwnersAsked (operation : Operation) : List Exchange → Query → Prop
  | intro {reads : List Exchange} {directory : Directory} {raw : RawValues} {key : Int} {values : Values}
      {ids : List RecordId} (rows : RowsRead operation reads directory raw key)
      (typed : Typing.typeValues directory.fields raw = .ok values) (references : ReferencesOf values ids) :
      OwnersAsked operation reads (ownersQuery ids)

/-- What has been checked by the time that a statement is sent. -/
structure Checked (operation : Operation) (earlier : List Exchange) (query : Query) : Prop where
  records : query.statement.stores .records = true → ValuesChecked operation earlier query
  directories : query.statement.stores .directories = true → FieldsChecked operation earlier query
  owners : query.statement.asksOwners = true → OwnersAsked operation earlier query

/-- What a step does, whatever its database replies. -/
structure Disciplined (operation : Operation) (results : List (Except Failure ResultSet)) (trace : Trace) :
    Prop where
  few : trace.statements.length ≤ 4
  writesLast : trace.statements.Pairwise fun earlier _ => earlier.statement.isWrite = false
  endsAtError : EndsAtError (fun error => trace.outcome = .error (.because (.store error)))
    (exchanges trace.statements results)
  ownersOnce : trace.statements.Pairwise fun earlier later =>
    earlier.statement.asksOwners = true → later.statement.asksOwners = false
  checked : AtEach (fun earlier exchange _ => Checked operation earlier exchange.query)
    (exchanges trace.statements results)

/-! ## Statements that need no check and statements that passed theirs -/

/-- A statement that stores nothing and asks for no owners. -/
structure Plain (query : Query) : Prop where
  idle : ∀ table, query.statement.stores table = false
  unasking : query.statement.asksOwners = false

theorem Plain.checked {query : Query} (plain : Plain query) (operation : Operation)
    (earlier : List Exchange) : Checked operation earlier query where
  records stored := absurd ((plain.idle _).symm.trans stored) Bool.false_ne_true
  directories stored := absurd ((plain.idle _).symm.trans stored) Bool.false_ne_true
  owners asked := absurd (plain.unasking.symm.trans asked) Bool.false_ne_true

theorem plain_directoryQuery (id : DirectoryId) : Plain (directoryQuery id) :=
  ⟨fun _ => rfl, rfl⟩

theorem plain_recordQuery (id : RecordId) : Plain (recordQuery id) :=
  ⟨fun _ => rfl, rfl⟩

theorem plain_existingQuery (ids : List DirectoryId) : Plain (existingQuery ids) :=
  ⟨fun _ => rfl, rfl⟩

theorem plain_recordsQuery (predicate : Predicate) (page : Option PageRequest) :
    Plain (recordsQuery predicate page) := by
  cases page <;> exact ⟨fun _ => rfl, rfl⟩

theorem plain_countQuery (predicate : Predicate) : Plain (countQuery predicate) :=
  ⟨fun _ => rfl, rfl⟩

namespace Checked

variable {operation : Operation} {earlier : List Exchange} {query : Query}

theorem ofOwners {ids : List RecordId} (asked : OwnersAsked operation earlier (ownersQuery ids)) :
    Checked operation earlier (ownersQuery ids) where
  records stored := by cases stored
  directories stored := by cases stored
  owners _ := asked

theorem ofValues (checked : ValuesChecked operation earlier query)
    (elsewhere : query.statement.stores .directories = false)
    (unasking : query.statement.asksOwners = false) : Checked operation earlier query where
  records _ := checked
  directories stored := absurd (elsewhere.symm.trans stored) Bool.false_ne_true
  owners asked := absurd (unasking.symm.trans asked) Bool.false_ne_true

theorem ofFields (checked : FieldsChecked operation earlier query)
    (elsewhere : query.statement.stores .records = false) (unasking : query.statement.asksOwners = false) :
    Checked operation earlier query where
  records stored := absurd (elsewhere.symm.trans stored) Bool.false_ne_true
  directories _ := checked
  owners asked := absurd (unasking.symm.trans asked) Bool.false_ne_true

end Checked

theorem RowsRead.reading {operation : Operation} {reads : List Exchange} {directory : Directory}
    {raw : RawValues} {key : Int} (rows : RowsRead operation reads directory raw key) : Reading 2 reads := by
  cases rows with
  | created => exact (Reading.single rfl).mono (Nat.le_succ 1)
  | updated => exact Reading.append (Reading.single rfl) (Reading.single rfl)

theorem RowsRead.unasking {operation : Operation} {reads : List Exchange} {directory : Directory}
    {raw : RawValues} {key : Int} (rows : RowsRead operation reads directory raw key) :
    ∀ exchange ∈ reads, exchange.query.statement.asksOwners = false := by
  cases rows with
  | @created id raw rows =>
      simpa using (plain_directoryQuery id).unasking
  | @updated id raw recordRows rows record =>
      simpa using ⟨(plain_recordQuery id).unasking, (plain_directoryQuery record.directory).unasking⟩

/-! ## What the services send -/

/-- What an operation may send after some exchanges: a checked statement, when there have been three at most
and no write. -/
def May (operation : Operation) (log : List Exchange) (query : Query) : Prop :=
  Reading 3 log ∧ Checked operation log query

theorem Plain.may {query : Query} (plain : Plain query) {operation : Operation} {log : List Exchange}
    (reading : Reading 3 log) : May operation log query :=
  ⟨reading, plain.checked operation log⟩

/-- Every statement of a task that starts with a statement is one that the operation may send. -/
def Obeys {α : Type} (operation : Operation) (task : Task α) : Prop :=
  Sends (May operation) (fun _ _ => True) task []

theorem obeys_map {α β : Type} {operation : Operation} {task : Task α} (f : α → β)
    (obeys : Obeys operation task) : Obeys operation (f <$> task) :=
  (sends_map f task _).mpr obeys

/-- Nothing is sent behind a write, whether or not it has found its row. -/
theorem sends_changed {α : Type} {may : List Exchange → Query → Prop} {log : List Exchange} (changed : Bool)
    (a : α) (error : ServiceError) :
    Sends may (fun _ _ => True) (if changed then pure a else fail error) log := by
  split
  · exact (sends_pure a _).mpr trivial
  · exact sends_fail error _

namespace Service

open RecordDirectory.Service

theorem obeys_getDirectory (id : DirectoryId) : Obeys (.getDirectory id) (getDirectory id) :=
  (sends_getDirectory _ id).mpr ⟨(plain_directoryQuery id).may .nil, fun _ _ _ => trivial⟩

theorem obeys_getRecord (id : RecordId) : Obeys (.getRecord id) (getRecord id) :=
  (sends_getRecord _ id).mpr ⟨(plain_recordQuery id).may .nil, fun _ _ _ => trivial⟩

theorem obeys_listDirectories : Obeys .listDirectories listDirectories :=
  (sends_call (c := .listDirectories) rfl _).mpr ⟨Plain.may ⟨fun _ => rfl, rfl⟩ .nil, fun _ _ _ => trivial⟩

theorem obeys_createDirectory (code : DirectoryCode) (draft : DirectoryDraft) :
    Obeys (.createDirectory code draft) (createDirectory code draft) := by
  unfold Obeys createDirectory
  rw [sends_bind, sends_validated]
  intro checked passed
  rw [sends_bind]
  refine References.sends_checkTargets (Keyed.distinct_distinct _) ((plain_existingQuery _).may .nil) ?_
  intro lookups targets
  refine (sends_call (c := .createDirectory code checked) rfl _).mpr ⟨⟨?_, ?_⟩, fun _ _ _ => trivial⟩
  · exact targets.reading.mono (by decide)
  · exact .ofFields (.created passed targets rfl) rfl rfl

theorem obeys_updateDirectory (id : DirectoryId) (draft : DirectoryDraft) :
    Obeys (.updateDirectory id draft) (updateDirectory id draft) := by
  unfold Obeys updateDirectory
  rw [sends_bind, sends_getDirectory]
  refine ⟨(plain_directoryQuery id).may .nil, ?_⟩
  intro rows directory decoded
  have reading : Reading 1 [⟨directoryQuery id, .ok rows⟩] := .single rfl
  rw [sends_bind, sends_validated]
  intro checked passed
  rw [sends_bind]
  refine References.sends_checkChange ((plain_existingQuery _).may (reading.mono (by decide))) ?_
  intro lookups targets other
  rw [sends_bind]
  refine (sends_call (c := .updateDirectory _) rfl _).mpr ⟨⟨?_, ?_⟩, ?_⟩
  · exact (reading.append targets.reading).mono (by decide)
  · exact .ofFields (.updated decoded passed targets other rfl) rfl rfl
  · exact fun _ changed _ => sends_changed changed _ _

theorem obeys_createRecord (id : DirectoryId) (raw : RawValues) :
    Obeys (.createRecord id raw) (createRecord id raw) := by
  unfold Obeys createRecord
  rw [sends_bind, sends_getDirectory]
  refine ⟨(plain_directoryQuery id).may .nil, ?_⟩
  intro rows directory decoded
  have read : RowsRead (.createRecord id raw) _ directory raw directory.id.number := .created decoded
  rw [sends_bind]
  refine sends_checkedValues (fun values ids typed references => ?_) fun values lookups typed owners => ?_
  · exact ⟨read.reading.mono (by decide), .ofOwners (.intro read typed references)⟩
  · refine (sends_call (c := .createRecord directory.id values) rfl _).mpr ⟨⟨?_, ?_⟩, fun _ _ _ => trivial⟩
    · exact read.reading.append owners.reading
    · exact .ofValues (.intro read typed owners rfl) rfl rfl

theorem obeys_updateRecord (id : RecordId) (raw : RawValues) :
    Obeys (.updateRecord id raw) (updateRecord id raw) := by
  unfold Obeys updateRecord
  rw [sends_bind, sends_getRecord]
  refine ⟨(plain_recordQuery id).may .nil, ?_⟩
  intro recordRows record found
  have reading : Reading 1 [⟨recordQuery id, .ok recordRows⟩] := .single rfl
  rw [sends_bind, sends_getDirectory]
  refine ⟨(plain_directoryQuery _).may (reading.mono (by decide)), ?_⟩
  intro rows directory decoded
  have read : RowsRead (.updateRecord id raw) _ directory raw id.number := .updated found decoded
  rw [sends_bind]
  refine sends_checkedValues (fun values ids typed references => ?_) fun values lookups typed owners => ?_
  · exact ⟨read.reading.mono (by decide), .ofOwners (.intro read typed references)⟩
  · rw [sends_bind]
    refine (sends_call (c := .updateRecord id values) rfl _).mpr ⟨⟨?_, ?_⟩, ?_⟩
    · exact read.reading.append owners.reading
    · exact .ofValues (.intro read typed owners rfl) rfl rfl
    · exact fun _ changed _ => sends_changed changed _ _

theorem obeys_deleteRecord (id : RecordId) : Obeys (.deleteRecord id) (deleteRecord id) := by
  unfold Obeys deleteRecord
  rw [sends_bind]
  refine (sends_call (c := .deleteRecord id) rfl _).mpr ⟨Plain.may ⟨fun _ => rfl, rfl⟩ .nil, ?_⟩
  exact fun _ changed _ => sends_changed changed _ _

/-- A query for records takes a second statement only for the number of records behind a page. -/
theorem sends_queryRecords {operation : Operation} {ends : Page Record → List Exchange → Prop}
    {log : List Exchange} (reading : Reading 1 log) (predicate : Predicate) (page : Option PageRequest)
    (rest : ∀ page after, ends page after) :
    Sends (May operation) ends (call (.queryRecords predicate page)) log := by
  have asked : May operation log (recordsQuery predicate page) :=
    (plain_recordsQuery predicate page).may (reading.mono (by decide))
  cases page with
  | none => exact (sends_call (c := .queryRecords predicate none) rfl _).mpr ⟨asked, fun _ _ _ => rest _ _⟩
  | some page =>
      refine (sends_ask (.queryRecords predicate (some page)) _).mpr ⟨asked, ?_⟩
      intro rows
      have reply : Reading 1 [⟨recordsQuery predicate (some page), .ok rows⟩] := .single rfl
      -- Only rows that have been decoded are counted.
      beta_reduce
      cases rows.all Row.record with
      | error error => trivial
      | ok items =>
          refine (Plan.sends_single _ _ _).mpr ⟨?_, fun _ _ _ => rest _ _⟩
          exact (plain_countQuery predicate).may ((reading.append reply).mono (by decide))

theorem obeys_listRecords (id : DirectoryId) (search : Option String) (page : PageRequest) :
    Obeys (.listRecords id search page) (listRecords id search page) := by
  unfold Obeys listRecords
  rw [sends_bind, sends_getDirectory]
  refine ⟨(plain_directoryQuery id).may .nil, ?_⟩
  intro _ _ _
  exact sends_queryRecords (.single rfl) _ _ fun _ _ => trivial

theorem obeys_listAllRecords (id : DirectoryId) (search : Option String) :
    Obeys (.listAllRecords id search) (listAllRecords id search) := by
  unfold Obeys listAllRecords
  rw [sends_bind, sends_getDirectory]
  refine ⟨(plain_directoryQuery id).may .nil, ?_⟩
  intro _ directory _
  rw [sends_bind]
  exact sends_queryRecords (.single rfl) _ _ fun _ _ => (sends_pure _ _).mpr trivial

end Service

/-- A service sends nothing that it may not send. -/
theorem obeys_task {operation : Operation} (service : operation.isService = true) :
    Obeys operation operation.task := by
  cases operation with
  | createDirectory code draft => exact obeys_map _ (Service.obeys_createDirectory code draft)
  | updateDirectory id draft => exact obeys_map _ (Service.obeys_updateDirectory id draft)
  | getDirectory id => exact obeys_map _ (Service.obeys_getDirectory id)
  | listDirectories => exact obeys_map _ Service.obeys_listDirectories
  | createRecord id raw => exact obeys_map _ (Service.obeys_createRecord id raw)
  | updateRecord id raw => exact obeys_map _ (Service.obeys_updateRecord id raw)
  | getRecord id => exact obeys_map _ (Service.obeys_getRecord id)
  | deleteRecord id => exact obeys_map _ (Service.obeys_deleteRecord id)
  | listRecords id search page => exact obeys_map _ (Service.obeys_listRecords id search page)
  | listAllRecords id search => exact obeys_map _ (Service.obeys_listAllRecords id search)
  | checkCreation | checkChange | checkValues | store => cases service

/-! ## Every script of replies -/

theorem OwnersAsked.unasking {operation : Operation} {earlier : List Exchange} {query : Query}
    (asked : OwnersAsked operation earlier query) :
    ∀ exchange ∈ earlier, exchange.query.statement.asksOwners = false := by
  cases asked with
  | intro rows => exact rows.unasking

/-- Whatever a database replies, a service sends at most four statements, of which only the last may be a
write and only the last may fail, and each of them has been checked. -/
theorem disciplined_runScripted {operation : Operation} (service : operation.isService = true)
    (results : List (Except Failure ResultSet)) :
    Disciplined operation results (runScripted operation results) := by
  have talk := converses_runScripted operation results
  have each : AtEach (fun earlier exchange _ => May operation earlier exchange.query) _ :=
    talk.sends (obeys_task service)
  have queries := map_query_exchanges (runScripted operation results).statements results
  refine ⟨?_, ?_, talk.endsAtError, ?_, each.mono fun sent => sent.2⟩
  · rw [← length_exchanges _ results]
    exact each.length_le fun sent => Nat.lt_succ_of_le sent.1.few
  · rw [← queries, List.pairwise_map]
    exact each.pairwise fun sent => sent.1.unwriting
  · rw [← queries, List.pairwise_map]
    refine each.pairwise fun sent other listed asking => Bool.eq_false_iff.mpr fun again => ?_
    exact Bool.false_ne_true (((sent.2.owners again).unasking other listed).symm.trans asking)

/-- Replies to a change of a record in a directory with one field. -/
def sampleResults : List (Except Failure ResultSet) :=
  let customer : FieldDefinition := ⟨"customer", .reference, some ⟨2⟩⟩
  [.ok ⟨recordColumns, [[.integer 7, .integer 1, .json (Values.toJson Keyed.empty)]], 1⟩,
    .ok ⟨directoryColumns, [[.integer 1, .code default, .text "Orders",
      .json (FieldDefinition.listToJson [customer])]], 1⟩,
    .ok ⟨["id", "directory_id"], [[.integer 5, .integer 3], [.integer 5, .integer 2]], 2⟩,
    .ok ⟨[], [], 1⟩]

/-- A change of a record with one reference takes four statements.  Of the two rows that the database replies
for its owner, the last one is what the field points at. -/
theorem disciplined_runScripted_updateRecord :
    (runScripted (.updateRecord ⟨7⟩ (Keyed.ofList [("customer", .integer 5)])) sampleResults).statements.map
        (fun query => query.statement.isWrite) = [false, false, false, true] ∧
      Disciplined (.updateRecord ⟨7⟩ (Keyed.ofList [("customer", .integer 5)])) sampleResults
        (runScripted (.updateRecord ⟨7⟩ (Keyed.ofList [("customer", .integer 5)])) sampleResults) :=
  ⟨by decide +kernel, disciplined_runScripted rfl sampleResults⟩

end Sql
end RecordDirectory
