import RecordDirectory.Proofs.Sql.Results

namespace RecordDirectory
namespace Sql

/-!
# Agreement of the two stores

A database whose tables mirror those in memory gives the same reply to a call and mirrors the tables again
afterwards.  There is one lemma for every plan, and `Serves.agrees` collects them.

This does not hold of any call at any time.  A refused creation of a directory would abort the transaction
of the database, so the code must not be taken.  What is stored must read back, for which a write has to be
admitted, and ids have to fit 64 bits, since a reader of JSON accepts no greater target.  The last condition
also keeps tables shorter than the greatest window.
-/

namespace Server

/-- The database mirrors the tables in memory, and is ready for the next statement. -/
structure Serves (s : Server) (committed : Content) (t : Tables) : Prop where
  committed : s.committed = committed
  working : s.working.Mirrors t
  directory_count : s.lastDirectoryId = t.lastDirectoryId
  record_count : s.lastRecordId = t.lastRecordId
  active : s.aborted = false

/-- Both stores give the same reply to a call, and the database mirrors the tables again. -/
def Agrees (arrangement : Arrangement) (committed : Content) (s : Server) (t : Tables) (c : StoreCall) :
    Prop :=
  (Sql.answer (answer arrangement) c s).1 = (Tables.answer c t).1 ∧
    (Sql.answer (answer arrangement) c s).2.Serves committed (Tables.answer c t).2

variable {arrangement : Arrangement} {committed : Content} {s : Server} {t : Tables}

theorem Serves.later (serves : s.Serves committed t) (now : Nat) :
    ({ s with now := now }).Serves committed t :=
  ⟨serves.committed, serves.working, serves.directory_count, serves.record_count, serves.active⟩

theorem Serves.of_directories (serves : s.Serves committed t) {rows : List DirectoryRow}
    {directories : Keyed DirectoryId Directory}
    (mirrored : List.Forall₂ DirectoryRow.Shows rows directories.values) :
    ({ s with working := { s.working with directories := rows } }).Serves committed
      { t with directories := directories } :=
  ⟨serves.committed, ⟨mirrored, serves.working.records⟩, serves.directory_count, serves.record_count,
    serves.active⟩

theorem Serves.of_records (serves : s.Serves committed t) {rows : List RecordRow}
    {records : Keyed RecordId Record} (mirrored : List.Forall₂ RecordRow.Shows rows records.values) :
    ({ s with working := { s.working with records := rows } }).Serves committed
      { t with records := records } :=
  ⟨serves.committed, ⟨serves.working.directories, mirrored⟩, serves.directory_count, serves.record_count,
    serves.active⟩

theorem answer_of_performed (active : s.aborted = false) {query : Query} {result : ResultSet} {after : Server}
    (performed : s.perform arrangement ⟨s.now, query.parameters⟩ query.statement = (.ok result, after)) :
    answer arrangement query s = (.ok result, { after with now := s.now + 1 }) := by
  simp only [answer, active, performed, Bool.false_eq_true, if_false]

theorem agrees_of_performed {c : StoreCall} {query : Query} {decode : ResultSet → Except StoreError c.Reply}
    (planned : plan c = .single query decode) (active : s.aborted = false)
    {result : ResultSet} {after : Server}
    (performed : s.perform arrangement ⟨s.now, query.parameters⟩ query.statement = (.ok result, after))
    (replied : decode result = (Tables.answer c t).1) (serves : after.Serves committed (Tables.answer c t).2) :
    Agrees arrangement committed s t c := by
  unfold Agrees Sql.answer
  rw [planned, Plan.single, Plan.run, answer_of_performed active performed]
  exact ⟨replied, serves.later _⟩

/-! ## Calls that read -/

namespace Serves

theorem agrees_existingDirectories (sound : t.Sound) (serves : s.Serves committed t) (ids : List DirectoryId) :
    Agrees arrangement committed s t (.existingDirectories ids) := by
  let setting : Setting := ⟨s.now, [.integers ((Keyed.distinct ids).map DirectoryId.number)]⟩
  have decides := Setting.identifies_directory.decides_idIsAny DirectoryId.number_injective s.now
    (Keyed.distinct ids)
  rcases decides.select? setting.renders_directoryId arrangement serves.working.directories with
    ⟨result, items, selected, decoded, perm⟩
  have performed := congrArg (fun selected => (shown selected, s)) selected
  refine agrees_of_performed rfl serves.active performed ?_ serves
  have same : Keyed.distinct (items.map DirectoryId.mk) = t.existingDirectories ids := by
    have ascends := (Keyed.distinct_ascending ids).filter t.directories.contains
    refine Keyed.eq_of_ascending (Keyed.distinct_ascending _) ascends fun id => ?_
    rw [Keyed.mem_distinct, (perm.map DirectoryId.mk).mem_iff, List.map_map, Tables.mem_existingDirectories]
    simp only [List.mem_map, List.mem_filter, decide_eq_true_eq, Function.comp, Keyed.contains_iff,
      Keyed.mem_distinct]
    constructor
    · rintro ⟨directory, ⟨member, listed⟩, rfl⟩
      rcases Keyed.mem_values_iff.mp member with ⟨key, stored⟩
      exact ⟨listed, directory, (sound.directory_id stored).symm ▸ stored⟩
    · rintro ⟨listed, directory, stored⟩
      have named := sound.directory_id stored
      exact ⟨directory, ⟨Keyed.mem_values_iff.mpr ⟨id, stored⟩, named.symm ▸ listed⟩, named⟩
  change (result.all _).map _ = Except.ok (t.existingDirectories ids)
  rw [decoded, ← same]
  rfl

theorem agrees_recordOwners (sound : t.Sound) (serves : s.Serves committed t) (ids : List RecordId) :
    Agrees arrangement committed s t (.recordOwners ids) := by
  let setting : Setting := ⟨s.now, [.integers ((Keyed.distinct ids).map RecordId.number)]⟩
  have decides := Setting.identifies_record.decides_idIsAny RecordId.number_injective s.now
    (Keyed.distinct ids)
  rcases decides.select? setting.renders_owner arrangement serves.working.records with
    ⟨result, items, selected, decoded, perm⟩
  have performed := congrArg (fun selected => (shown selected, s)) selected
  refine agrees_of_performed rfl serves.active performed ?_ serves
  have listed_iff : ∀ id owner, (id, owner) ∈ items ↔
      id ∈ ids ∧ ∃ record, t.records.get? id = some record ∧ record.directory = owner := by
    intro id owner
    rw [perm.mem_iff]
    simp only [List.mem_map, List.mem_filter, decide_eq_true_eq, Prod.mk.injEq, Keyed.mem_distinct]
    constructor
    · rintro ⟨record, ⟨member, listed⟩, rfl, rfl⟩
      rcases Keyed.mem_values_iff.mp member with ⟨key, stored⟩
      exact ⟨listed, record, (sound.record_id stored).symm ▸ stored, rfl⟩
    · rintro ⟨listed, record, stored, rfl⟩
      have named := sound.record_id stored
      exact ⟨record, ⟨Keyed.mem_values_iff.mpr ⟨id, stored⟩, named.symm ▸ listed⟩, named, rfl⟩
  have same : Keyed.ofList items = t.recordOwners ids := by
    apply Keyed.ext_get?
    intro id
    have functional : ∀ owner, (id, owner) ∈ items → ∀ other, (id, other) ∈ items → owner = other := by
      intro owner listed other alsoListed
      rcases (listed_iff id owner).mp listed with ⟨_, record, stored, rfl⟩
      rcases (listed_iff id other).mp alsoListed with ⟨_, again, storedAgain, rfl⟩
      rw [stored] at storedAgain
      cases storedAgain
      rfl
    ext owner
    rw [Keyed.get?_ofList_eq_some_iff functional, listed_iff, Tables.get?_recordOwners]
    simp
  change (result.all _).map _ = Except.ok (t.recordOwners ids)
  rw [decoded, ← same]
  rfl

theorem agrees_getDirectory (sound : t.Sound) (serves : s.Serves committed t) (id : DirectoryId) :
    Agrees arrangement committed s t (.getDirectory id) := by
  rcases Setting.identifies_directory.select?_idIs DirectoryId.number_injective sound.directories_carry
    serves.working.directories (Setting.renders_directory _) arrangement with ⟨result, selected, decoded⟩
  have performed := congrArg (fun selected => (shown selected, s)) selected
  exact agrees_of_performed rfl serves.active performed decoded serves

theorem agrees_getRecord (sound : t.Sound) (serves : s.Serves committed t) (id : RecordId) :
    Agrees arrangement committed s t (.getRecord id) := by
  rcases Setting.identifies_record.select?_idIs RecordId.number_injective sound.records_carry
    serves.working.records (Setting.renders_record _) arrangement with ⟨result, selected, decoded⟩
  have performed := congrArg (fun selected => (shown selected, s)) selected
  exact agrees_of_performed rfl serves.active performed decoded serves

/-- All matching records, in the order of a page. -/
theorem exists_ordered (sound : t.Sound) (serves : s.Serves committed t) (predicate : Predicate)
    (later : List Parameter) (order : SortOrder) :
    ∃ found,
      (Setting.mk s.now (predicate.parameters ++ later)).filter? (predicate.condition 1) s.working.records =
        some found ∧
      List.Forall₂ RecordRow.Shows (sorted Columns.id order found) (inOrder order (t.matching predicate)) := by
  have decides := Setting.decides_condition s.now predicate later
  rcases decides.filter? serves.working.records with ⟨found, filtered, mirrored⟩
  have same := map_eq_of_forall₂ mirrored fun _ _ shown => RecordRow.Shows.id shown
  have ascends : found.Pairwise fun a b => Columns.id a < Columns.id b := by
    have matchingAscends := sound.records_ascend.filter fun record => predicate.holds record
    rw [← List.pairwise_map, ← same, List.pairwise_map] at matchingAscends
    exact matchingAscends
  refine ⟨found, filtered, ?_⟩
  rw [sorted_of_perm ascends (.refl found)]
  exact inOrder_of_forall₂ mirrored order

theorem agrees_allRecords (sound : t.Sound) (serves : s.Serves committed t) (predicate : Predicate) :
    Agrees arrangement committed s t (.queryRecords predicate none) := by
  rcases exists_ordered sound serves predicate [] .ascending with ⟨found, filtered, mirrored⟩
  rw [List.append_nil] at filtered
  have cut : (Setting.mk s.now predicate.parameters).window? none
      (arrangement.ordered Columns.id s.now (some .ascending) found) =
        some (sorted Columns.id .ascending found) := rfl
  rcases Setting.select?_of_renders (Setting.renders_record _) arrangement filtered cut mirrored with
    ⟨result, selected, decoded⟩
  have performed := congrArg (fun selected => (shown selected, s)) selected
  refine agrees_of_performed rfl serves.active performed ?_ serves
  rw [List.map_id] at decoded
  change (result.all Row.record).map wholePage = _
  rw [decoded]
  rfl

theorem agrees_pageOfRecords (sound : t.Sound) (fits : t.IdsFit) (serves : s.Serves committed t)
    (predicate : Predicate) (page : PageRequest) :
    Agrees arrangement committed s t (.queryRecords predicate (some page)) := by
  rcases exists_ordered sound serves predicate [windowCount page.limit, windowCount page.offset] page.sort with
    ⟨found, filtered, mirrored⟩
  have cut := Setting.window?_windowCounts s.now predicate.parameters page.limit page.offset
    (arrangement.ordered Columns.id s.now (some page.sort) found)
  have mirroredCut := List.forall₂_take (min page.limit greatestCount)
    (List.forall₂_drop (min page.offset greatestCount) mirrored)
  rcases Setting.select?_of_renders (Setting.renders_record _) arrangement filtered cut mirroredCut with
    ⟨result, selected, decoded⟩
  have short : (inOrder page.sort (t.matching predicate)).length ≤ greatestCount := by
    have all := sound.length_records_le
    have limit := fits.record
    have part : (t.matching predicate).length ≤ t.records.values.length := List.length_filter_le _ _
    rw [length_inOrder, greatestCount]
    omega
  rw [List.map_id, take_drop_min short] at decoded
  have counted := (Setting.decides_condition (s.now + 1) predicate []).select?_count arrangement
    serves.working.records
  rw [List.append_nil, List.countP_eq_length_filter] at counted
  let next : Server := { s with now := s.now + 1 }
  have first : answer arrangement (recordsQuery predicate (some page)) s = (.ok result, next) :=
    answer_of_performed serves.active (congrArg (fun selected => (shown selected, s)) selected)
  have performed : next.perform arrangement ⟨next.now, (countQuery predicate).parameters⟩
      (countQuery predicate).statement =
        (.ok ⟨["count"], [[.integer (t.matching predicate).length]], 1⟩, next) :=
    congrArg (fun counted => (shown counted, next)) counted
  have second : answer arrangement (countQuery predicate) next = (.ok ⟨["count"],
      [[.integer (t.matching predicate).length]], 1⟩, { next with now := next.now + 1 }) :=
    answer_of_performed (serves.later (s.now + 1)).active performed
  unfold Agrees Sql.answer plan queryPlan
  simp only [Plan.run, first, decoded, Plan.single, second]
  exact ⟨rfl, serves.later _⟩

theorem agrees_listDirectories (sound : t.Sound) (serves : s.Serves committed t) :
    Agrees arrangement committed s t .listDirectories := by
  rcases serves.working.selectJoined? sound ⟨s.now, []⟩ arrangement with ⟨result, joined, decoded⟩
  have performed : s.perform arrangement ⟨s.now, []⟩ (.selectJoined directoryCounts) = (.ok result, s) := by
    rw [perform, Content.groups?_directoryCounts, Option.bind_some]
    exact congrArg (fun joined => (shown joined, s)) joined
  exact agrees_of_performed rfl serves.active performed decoded serves

/-! ## Calls that write -/

theorem perform_update_directories (arrangement : Arrangement) {setting : Setting}
    {assignments : List (String × Expr)} {condition : Expr} {rows : List DirectoryRow} {affected : Nat}
    (keyless : (assignments.any fun assignment => keyColumns.contains assignment.1) = false)
    (updated : setting.update? assignments condition s.working.directories = some (rows, affected)) :
    s.perform arrangement setting (.update .directories assignments condition) =
      (.ok ⟨[], [], affected⟩, { s with working := { s.working with directories := rows } }) := by
  simp only [perform, keyless, updated, Bool.false_eq_true, if_false]

theorem perform_update_records (arrangement : Arrangement) {setting : Setting}
    {assignments : List (String × Expr)} {condition : Expr} {rows : List RecordRow} {affected : Nat}
    (keyless : (assignments.any fun assignment => keyColumns.contains assignment.1) = false)
    (updated : setting.update? assignments condition s.working.records = some (rows, affected)) :
    s.perform arrangement setting (.update .records assignments condition) =
      (.ok ⟨[], [], affected⟩, { s with working := { s.working with records := rows } }) := by
  simp only [perform, keyless, updated, Bool.false_eq_true, if_false]

theorem agrees_createDirectory (sound : t.Sound) (fits : t.IdsFit) (serves : s.Serves committed t)
    {code : DirectoryCode} {draft : DirectoryDraft} (admitted : t.Admits (.createDirectory code draft))
    (untaken : t.codeTaken code = false) : Agrees arrangement committed s t (.createDirectory code draft) := by
  let row : DirectoryRow :=
    ⟨s.lastDirectoryId + 1, code, draft.name, FieldDefinition.listToJson draft.fields, s.now, s.now⟩
  let after : Server :=
    { s with
      lastDirectoryId := s.lastDirectoryId + 1
      working := { s.working with directories := s.working.directories ++ [row] } }
  have unique : (s.working.directories.any fun other => other.code == row.code) = false := by
    refine (any_eq_of_forall₂ serves.working.directories fun _ _ shown => ?_).trans untaken
    exact congrArg (· == code) shown.code
  have performed : s.perform arrangement
      ⟨s.now, [.code code, .text draft.name, .json (FieldDefinition.listToJson draft.fields)]⟩
      (.insert .directories ["code", "name", "fields"] [.placeholder 1, .placeholder 2, .placeholder 3]
        directoryColumns) = (.ok ⟨directoryColumns, [row.cells], 1⟩, after) :=
    if_neg (Bool.eq_false_iff.mp unique)
  have shown : row.Shows (t.nextDirectory code draft) :=
    ⟨congrArg (· + 1) serves.directory_count, rfl, rfl, rfl,
      fits.listOfJson?_listToJson sound admitted.1 admitted.2⟩
  have stored : Tables.answer (.createDirectory code draft) t = (.ok (t.nextDirectory code draft),
      { t with
        directories := t.directories.insert (t.nextDirectory code draft).id (t.nextDirectory code draft)
        lastDirectoryId := t.lastDirectoryId + 1 }) := by
    simp only [Tables.answer, Tables.createDirectory, untaken, Bool.false_eq_true, if_false]
  refine agrees_of_performed rfl serves.active performed ?_ ?_
  · rw [stored]
    exact shown.decoded
  · rw [stored]
    refine ⟨serves.committed, ⟨?_, serves.working.records⟩, congrArg (· + 1) serves.directory_count,
      serves.record_count, serves.active⟩
    change List.Forall₂ _ _ (Keyed.values (t.directories.insert _ _))
    rw [Keyed.values_insert_of_above]
    · exact List.rel_append serves.working.directories (.cons shown .nil)
    · intro entry listed
      have bound := sound.directory_bound (Keyed.mem_entries_iff.mp listed)
      exact Int.compare_eq_lt.mpr (Int.lt_add_one_of_le bound.2)

theorem agrees_createRecord (sound : t.Sound) (serves : s.Serves committed t) {owner : DirectoryId}
    {values : Values} (admitted : t.Admits (.createRecord owner values)) :
    Agrees arrangement committed s t (.createRecord owner values) := by
  rcases admitted with ⟨directory, raw, found, accepted⟩
  let row : RecordRow := ⟨s.lastRecordId + 1, owner.number, values.toJson, s.now, s.now⟩
  let after : Server :=
    { s with
      lastRecordId := s.lastRecordId + 1
      working := { s.working with records := s.working.records ++ [row] } }
  have known : (s.working.directories.any fun other => other.id == row.directoryId) = true := by
    refine (any_eq_of_forall₂ serves.working.directories fun _ _ shown =>
      congrArg (· == owner.number) shown.id).trans ?_
    refine List.any_eq_true.mpr ⟨directory, Keyed.mem_values_iff.mpr ⟨_, found⟩, ?_⟩
    exact beq_iff_eq.mpr (congrArg DirectoryId.number (sound.directory_id found))
  have performed : s.perform arrangement ⟨s.now, [.integer owner.number, .json values.toJson]⟩
      (.insert .records ["directory_id", "field_values"] [.placeholder 1, .placeholder 2] recordColumns) =
        (.ok ⟨recordColumns, [row.cells], 1⟩, after) := if_pos known
  have shown : row.Shows (t.nextRecord owner values) :=
    ⟨congrArg (· + 1) serves.record_count, rfl, rfl, accepted.ofJson?_toJson⟩
  have present : t.directories.contains owner = true := Keyed.contains_iff.mpr ⟨directory, found⟩
  have stored : Tables.answer (.createRecord owner values) t = (.ok (t.nextRecord owner values),
      { t with
        records := t.records.insert (t.nextRecord owner values).id (t.nextRecord owner values)
        lastRecordId := t.lastRecordId + 1 }) := by
    simp only [Tables.answer, Tables.createRecord, present, if_true]
  refine agrees_of_performed rfl serves.active performed ?_ ?_
  · rw [stored]
    exact shown.decoded
  · rw [stored]
    refine ⟨serves.committed, ⟨serves.working.directories, ?_⟩, serves.directory_count,
      congrArg (· + 1) serves.record_count, serves.active⟩
    change List.Forall₂ _ _ (Keyed.values (t.records.insert _ _))
    rw [Keyed.values_insert_of_above]
    · exact List.rel_append serves.working.records (.cons shown .nil)
    · intro entry listed
      have bound := sound.record_bound (Keyed.mem_entries_iff.mp listed)
      exact Int.compare_eq_lt.mpr (Int.lt_add_one_of_le bound.2)

theorem agrees_updateDirectory (sound : t.Sound) (fits : t.IdsFit) (serves : s.Serves committed t)
    {changed : Directory} (admitted : t.Admits (.updateDirectory changed)) :
    Agrees arrangement committed s t (.updateDirectory changed) := by
  rcases admitted with ⟨shape, complete, _⟩
  let parameters : List Parameter := [.integer changed.id.number, .text changed.name,
    .json (FieldDefinition.listToJson changed.fields)]
  let assignments : List (String × Expr) := [("name", .placeholder 2), ("fields", .placeholder 3), touched]
  let change (directory : Directory) : Directory :=
    { directory with name := changed.name, fields := changed.fields }
  have decides := Setting.identifies_directory.decides_idIs DirectoryId.number_injective s.now changed.id
    [.text changed.name, .json (FieldDefinition.listToJson changed.fields)]
  have changes : ∀ (row : DirectoryRow) directory, row.Shows directory →
      ∃ other, (Setting.mk s.now parameters).change? assignments row = some other ∧
        other.Shows (change directory) := fun row directory shown =>
    ⟨⟨row.id, row.code, changed.name, FieldDefinition.listToJson changed.fields, row.createdAt, s.now⟩, rfl,
      shown.id, shown.code, rfl, rfl, fits.listOfJson?_listToJson sound shape complete⟩
  rcases decides.update? changes serves.working.directories with ⟨later, updated, mirrored⟩
  have performed := perform_update_directories arrangement rfl updated
  have stored := t.updateDirectory_eq changed
  refine agrees_of_performed rfl serves.active performed ?_ ?_
  · have counted := sound.directories_carry.countP_pos changed.id
    exact congrArg Except.ok (counted.trans (congrArg Prod.fst stored).symm)
  · change Serves _ committed (t.updateDirectory changed).2
    rw [stored]
    refine serves.of_directories ?_
    have modified := sound.directories_carry.values_modify changed.id change
    simp only [decide_eq_true_eq, ← modified] at mirrored
    exact mirrored

theorem agrees_updateRecord (sound : t.Sound) (serves : s.Serves committed t) {id : RecordId} {values : Values}
    (admitted : t.Admits (.updateRecord id values)) :
    Agrees arrangement committed s t (.updateRecord id values) := by
  rcases admitted with ⟨_, _, _, _, _, accepted⟩
  let parameters : List Parameter := [.integer id.number, .json values.toJson]
  let assignments : List (String × Expr) := [("field_values", .placeholder 2), touched]
  let change (record : Record) : Record := { record with values := values }
  have decides := Setting.identifies_record.decides_idIs RecordId.number_injective s.now id
    [.json values.toJson]
  have changes : ∀ (row : RecordRow) record, row.Shows record →
      ∃ other, (Setting.mk s.now parameters).change? assignments row = some other ∧
        other.Shows (change record) := fun row record shown =>
    ⟨⟨row.id, row.directoryId, values.toJson, row.createdAt, s.now⟩, rfl, shown.id, shown.directory, rfl,
      accepted.ofJson?_toJson⟩
  rcases decides.update? changes serves.working.records with ⟨later, updated, mirrored⟩
  have performed := perform_update_records arrangement rfl updated
  have stored := t.updateRecord_eq id values
  refine agrees_of_performed rfl serves.active performed ?_ ?_
  · exact congrArg Except.ok ((sound.records_carry.countP_pos id).trans (congrArg Prod.fst stored).symm)
  · change Serves _ committed (t.updateRecord id values).2
    rw [stored]
    refine serves.of_records ?_
    have modified := sound.records_carry.values_modify id change
    simp only [decide_eq_true_eq, ← modified] at mirrored
    exact mirrored

theorem agrees_deleteRecord (sound : t.Sound) (serves : s.Serves committed t) (id : RecordId) :
    Agrees arrangement committed s t (.deleteRecord id) := by
  have decides := Setting.identifies_record.decides_idIs RecordId.number_injective s.now id []
  rcases decides.delete? serves.working.records with ⟨kept, deleted, mirrored⟩
  have performed : s.perform arrangement ⟨s.now, [.integer id.number]⟩ (.delete .records (idIs 1)) =
      (.ok ⟨[], [], t.records.values.countP fun record => decide (record.id = id)⟩,
        { s with working := { s.working with records := kept } }) := by
    simp only [perform, deleted]
  have stored := t.deleteRecord_eq id
  refine agrees_of_performed rfl serves.active performed ?_ ?_
  · exact congrArg Except.ok ((sound.records_carry.countP_pos id).trans (congrArg Prod.fst stored).symm)
  · change Serves _ committed (t.deleteRecord id).2
    rw [stored]
    exact serves.of_records ((sound.records_carry.values_erase id).symm ▸ mirrored)

/-- The stores agree on every call that is asked of them. -/
theorem agrees (sound : t.Sound) (fits : t.IdsFit) (serves : s.Serves committed t) {c : StoreCall}
    (admitted : t.Admits c)
    (untaken : ∀ code draft, c = .createDirectory code draft → t.codeTaken code = false) :
    Agrees arrangement committed s t c := by
  cases c with
  | existingDirectories ids => exact serves.agrees_existingDirectories sound ids
  | recordOwners ids => exact serves.agrees_recordOwners sound ids
  | getDirectory id => exact serves.agrees_getDirectory sound id
  | listDirectories => exact serves.agrees_listDirectories sound
  | createDirectory code draft =>
      exact serves.agrees_createDirectory sound fits admitted (untaken code draft rfl)
  | updateDirectory changed => exact serves.agrees_updateDirectory sound fits admitted
  | getRecord id => exact serves.agrees_getRecord sound id
  | createRecord owner values => exact serves.agrees_createRecord sound admitted
  | updateRecord id values => exact serves.agrees_updateRecord sound admitted
  | deleteRecord id => exact serves.agrees_deleteRecord sound id
  | queryRecords predicate page =>
      cases page with
      | none => exact serves.agrees_allRecords sound predicate
      | some page => exact serves.agrees_pageOfRecords sound fits predicate page

end Serves
end Server
end Sql
end RecordDirectory