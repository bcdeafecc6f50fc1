import RecordDirectory.Proofs.Sql.Mirror
import RecordDirectory.Proofs.Store.Listed

namespace RecordDirectory
namespace Sql

/-!
# Results of the plans

What the conditions, columns and windows of the plans come to on rows that mirror the tables.  Conditions on
ids and conditions of searches decide every row, so that nothing is unknown.  The columns of a row decode to
the value that the row shows.
-/

/-! ## Decoding -/

/-- The first row is decoded like all rows. -/
theorem ResultSet.first?_of_all {α : Type} {decode : Row → Except StoreError α} {result : ResultSet}
    {items : List α} (decoded : result.all decode = .ok items) : result.first? decode = .ok items.head? := by
  unfold ResultSet.all at decoded
  unfold ResultSet.first?
  cases rows : result.toRows with
  | nil =>
      rw [rows] at decoded
      cases decoded
      rfl
  | cons row rest =>
      rw [rows, ResultSet.decodeRows] at decoded
      split at decoded
      · cases decoded
      · next item itemDecoded =>
        split at decoded
        · cases decoded
        · next later laterDecoded =>
          cases decoded
          simp only [itemDecoded]
          rfl

/-- A window with counts that are cut down shows the same of a list that is no longer than they are. -/
theorem take_drop_min {α : Type} {items : List α} {greatest : Nat} (short : items.length ≤ greatest)
    (limit offset : Nat) :
    (items.drop (min offset greatest)).take (min limit greatest) = (items.drop offset).take limit := by
  have dropped : items.drop (min offset greatest) = items.drop offset := by
    rcases Nat.le_total offset greatest with below | above
    · rw [Nat.min_eq_left below]
    · rw [Nat.min_eq_right above, List.drop_eq_nil_of_le short, List.drop_eq_nil_of_le (short.trans above)]
  have shorter : (items.drop offset).length ≤ greatest := by
    rw [List.length_drop]
    omega
  rw [dropped]
  rcases Nat.le_total limit greatest with below | above
  · rw [Nat.min_eq_left below]
  · rw [Nat.min_eq_right above, List.take_of_length_le shorter, List.take_of_length_le (shorter.trans above)]

/-- The contents that a directory is decoded from. -/
def DirectoryRow.cells (row : DirectoryRow) : List Cell :=
  [.integer row.id, .code row.code, .text row.name, .json row.fields]

/-- The contents that a record is decoded from. -/
def RecordRow.cells (row : RecordRow) : List Cell :=
  [.integer row.id, .integer row.directoryId, .json row.fieldValues]

/-- What a row is decoded to, up to its fields. -/
def DirectoryRow.decoded (row : DirectoryRow) : Except StoreError Directory :=
  (Cell.decoded (FieldDefinition.listOfJson? row.fields)).map fun fields =>
    ⟨⟨row.id⟩, row.code, row.name, fields⟩

theorem DirectoryRow.Shows.decoded {row : DirectoryRow} {directory : Directory} (shown : row.Shows directory) :
    row.decoded = .ok directory := by
  rw [DirectoryRow.decoded, shown.readBack, shown.id, shown.code, shown.name]
  rfl

theorem RecordRow.Shows.decoded {row : RecordRow} {record : Record} (shown : row.Shows record) :
    Row.record ⟨recordColumns, row.cells⟩ = .ok record := by
  change (Cell.decoded (Values.ofJson? row.fieldValues)).map
    (fun values => (⟨⟨row.id⟩, ⟨row.directoryId⟩, values⟩ : Record)) = _
  rw [shown.readBack, shown.id, shown.directory]
  rfl

namespace Setting

theorem renders_directory (setting : Setting) :
    Renders (setting.cells? (directoryColumns.map .column)) directoryColumns
      DirectoryRow.Shows Row.directory id :=
  fun row _ shown => ⟨row.cells, rfl, shown.decoded⟩

theorem renders_directoryId (setting : Setting) :
    Renders (setting.cells? (["id"].map .column)) ["id"]
      DirectoryRow.Shows (·.integerAt 0) fun directory => directory.id.number :=
  fun row _ shown => ⟨[.integer row.id], rfl, congrArg Except.ok shown.id⟩

theorem renders_record (setting : Setting) :
    Renders (setting.cells? (recordColumns.map .column)) recordColumns RecordRow.Shows Row.record id :=
  fun row _ shown => ⟨row.cells, rfl, shown.decoded⟩

theorem renders_owner (setting : Setting) :
    Renders (setting.cells? (["id", "directory_id"].map .column)) ["id", "directory_id"]
      RecordRow.Shows Row.owner fun record => (record.id, record.directory) := by
  intro row record shown
  refine ⟨[.integer row.id, .integer row.directoryId], rfl, ?_⟩
  change Except.ok (RecordId.mk row.id, DirectoryId.mk row.directoryId) = _
  rw [shown.id, shown.directory]

section Ids

variable {ρ α ι : Type} [Columns ρ] [DecidableEq ι]
variable {shows : ρ → α → Prop} {idOf : α → ι} {number : ι → Int}

/-- The id of a row is the number of the id of its value. -/
def Identifies (shows : ρ → α → Prop) (idOf : α → ι) (number : ι → Int) : Prop :=
  ∀ row value, shows row value → Columns.column? row "id" = some (.integer (number (idOf value)))

theorem Identifies.decides_idIs (identifies : Identifies shows idOf number) (injective : number.Injective)
    (now : Nat) (id : ι) (later : List Parameter) :
    (Setting.mk now (.integer (number id) :: later)).Decides (idIs 1) shows
      fun value => decide (idOf value = id) := by
  intro row value shown
  have evaluated : (idIs 1).eval?
      ((Setting.mk now (.integer (number id) :: later)).environment (Columns.column? row)) =
        some (.truth (number (idOf value) == number id)) := by
    change (Columns.column? row "id").bind (fun own => BinaryOp.equal.compute? own (.integer (number id))) = _
    rw [identifies row value shown]
    rfl
  rw [holds?_of_eval? evaluated, Option.some_inj, Bool.eq_iff_iff, beq_iff_eq, decide_eq_true_eq]
  exact injective.eq_iff

theorem Identifies.decides_idIsAny (identifies : Identifies shows idOf number) (injective : number.Injective)
    (now : Nat) (ids : List ι) :
    (Setting.mk now [.integers (ids.map number)]).Decides (idIsAny 1) shows
      fun value => decide (idOf value ∈ ids) := by
  intro row value shown
  have evaluated : (idIsAny 1).eval?
      ((Setting.mk now [.integers (ids.map number)]).environment (Columns.column? row)) =
        some (.truth ((ids.map number).contains (number (idOf value)))) := by
    change (Columns.column? row "id").bind
      (fun own => BinaryOp.equal.compute? own (.integers (ids.map number))) = _
    rw [identifies row value shown]
    rfl
  rw [holds?_of_eval? evaluated, Option.some_inj, Bool.eq_iff_iff, List.contains_iff_mem, decide_eq_true_eq]
  exact List.mem_map_of_injective injective

/-- A selection by id gives the value that is stored under it. -/
theorem Identifies.select?_idIs [Ord ι] [Std.TransOrd ι] [Std.LawfulEqOrd ι]
    (identifies : Identifies shows idOf number) (injective : number.Injective) {m : Keyed ι α}
    (carries : m.CarriesKeys idOf) {rows : List ρ} (mirrored : List.Forall₂ shows rows m.values)
    {columns : List String} {decode : Row → Except StoreError α} {now : Nat} {id : ι}
    (renders : Renders ((Setting.mk now [.integer (number id)]).cells? (columns.map .column)) columns shows
      decode fun value => value)
    (arrangement : Arrangement) :
    ∃ result, (Setting.mk now [.integer (number id)]).select? arrangement rows (columns.map .column) (idIs 1)
        none none = some result ∧ result.first? decode = .ok (m.get? id) := by
  rcases (identifies.decides_idIs injective now id []).select? renders arrangement mirrored with
    ⟨result, items, selected, decoded, perm⟩
  rw [List.map_id', carries.filter_values] at perm
  refine ⟨result, selected, (ResultSet.first?_of_all decoded).trans (congrArg Except.ok ?_)⟩
  -- There is one item at most, so it does not matter how the items are arranged.
  cases found : m.get? id with
  | none =>
      rw [found] at perm
      rw [List.perm_nil.mp perm, List.head?_nil]
  | some item =>
      rw [found] at perm
      rw [List.perm_singleton.mp perm, List.head?_cons]

end Ids

theorem identifies_directory : Identifies DirectoryRow.Shows Directory.id DirectoryId.number :=
  fun _ _ shown => congrArg (some ∘ Datum.integer) shown.id

theorem identifies_record : Identifies RecordRow.Shows Record.id RecordId.number :=
  fun _ _ shown => congrArg (some ∘ Datum.integer) shown.id

/-- The condition of a search chooses what the predicate holds of. -/
theorem decides_condition (now : Nat) (predicate : Predicate) (later : List Parameter) :
    (Setting.mk now (predicate.parameters ++ later)).Decides (predicate.condition 1) RecordRow.Shows
      fun record => predicate.holds record := by
  intro row record shown
  let setting := Setting.mk now (predicate.parameters ++ later)
  have shows : (setting.environment (Columns.column? row)).Shows record :=
    ⟨congrArg (some ∘ Datum.integer) shown.directory, congrArg (some ∘ Datum.json) shown.values⟩
  have placed : (setting.environment (Columns.column? row)).parameters =
      [] ++ predicate.parameters ++ later := rfl
  exact holds?_of_eval? (Predicate.eval?_condition shows predicate (fun _ _ => rfl) placed)

theorem count?_windowCount (now n : Nat) (earlier later : List Parameter) :
    (Setting.mk now (earlier ++ windowCount n :: later)).count? (earlier.length + 1) =
      some (min n greatestCount) := by
  have placed : ((Setting.mk now (earlier ++ windowCount n :: later)).environment fun _ => none).placeholder?
      (earlier.length + 1) = some (windowCount n).datum := Environment.placeholder?_of_append rfl
  rw [Setting.count?, placed]
  exact if_pos (Int.natCast_nonneg _)

/-- The window of a page, in which the two counts follow the parameters of the condition. -/
theorem window?_windowCounts {ρ : Type} (now : Nat) (parameters : List Parameter) (limit offset : Nat)
    (rows : List ρ) :
    (Setting.mk now (parameters ++ [windowCount limit, windowCount offset])).window?
        (some ⟨parameters.length + 1, parameters.length + 2⟩) rows =
      some ((rows.drop (min offset greatestCount)).take (min limit greatestCount)) := by
  have limited := count?_windowCount now limit parameters [windowCount offset]
  have skipped := count?_windowCount now offset (parameters ++ [windowCount limit]) []
  rw [List.length_append, List.append_assoc] at skipped
  simp only [Setting.window?, Option.bind_eq_bind, limited, Option.bind_some]
  exact congrArg (Option.bind · _) skipped

end Setting

/-! ## The listing of directories -/

theorem filterBy?_eq_filter {α : Type} {holds? : α → Option Bool} {chosen : α → Bool} {list : List α}
    (each : ∀ a ∈ list, holds? a = some (chosen a)) : filterBy? holds? list = some (list.filter chosen) := by
  induction list with
  | nil => rfl
  | cons a rest inductionHypothesis =>
      rcases List.forall_mem_cons.mp each with ⟨first, later⟩
      rw [filterBy?, first, inductionHypothesis later, List.filter_cons]
      rfl

namespace Content

/-- The numbers of records, by the directories that have any. -/
def recordCounts (content : Content) : List Group :=
  let owners := content.records.map fun row => Datum.integer row.directoryId
  owners.dedup.map fun owner => ⟨owner, owners.count owner⟩

theorem groups?_directoryCounts (content : Content) :
    content.groups? directoryCounts.groups = some content.recordCounts := by
  have owners : content.column? "directory_id" .records =
      some (content.records.map fun row => Datum.integer row.directoryId) := List.mapM_pure
  change (content.column? "directory_id" .records).bind _ = _
  rw [owners]
  rfl

theorem filter_recordCounts (content : Content) (id : Int) :
    content.recordCounts.filter (fun group => group.value == .integer id) =
      if id ∈ content.records.map RecordRow.directoryId then
        [⟨.integer id, content.records.countP fun row => row.directoryId == id⟩]
      else [] := by
  have listed : Datum.integer id ∈ content.records.map (fun row => Datum.integer row.directoryId) ↔
      id ∈ content.records.map RecordRow.directoryId := by
    simp only [List.mem_map, Datum.integer.injEq]
  have counted : (content.records.map fun row => Datum.integer row.directoryId).count (.integer id) =
      content.records.countP fun row => row.directoryId == id := by
    rw [List.count, List.countP_map]
    refine List.countP_congr fun row _ => ?_
    simp only [Function.comp, beq_iff_eq, Datum.integer.injEq]
  rw [recordCounts, List.filter_map]
  change List.map _ (List.filter (fun owner => owner == Datum.integer id) _) = _
  rw [List.filter_beq, List.count_dedup]
  simp only [listed]
  split
  · rw [List.replicate_one, List.map_singleton, counted]
  · rfl

/-- The count of a group, or zero where there is none. -/
def countOf (group : Option Group) : Nat :=
  group.elim 0 Group.count

/-- A directory is joined with the group of its records, if it has any. -/
theorem join?_directoryCounts (setting : Setting) (content : Content) (row : DirectoryRow) :
    ∃ group, setting.join? directoryCounts content.recordCounts row = some [(row, group)] ∧
      countOf group = content.records.countP fun record => record.directoryId == row.id := by
  have holds : ∀ group ∈ content.recordCounts,
      (setting.environment (directoryCounts.column? row (some group))).holds? directoryCounts.condition =
        some (group.value == .integer row.id) := by
    intro group listed
    rcases List.mem_map.mp listed with ⟨owner, member, rfl⟩
    rcases List.mem_map.mp (List.mem_dedup.mp member) with ⟨record, _, rfl⟩
    have evaluated : directoryCounts.condition.eval?
        (setting.environment (directoryCounts.column? row
          (some ⟨.integer record.directoryId, (content.records.map fun row => Datum.integer row.directoryId).count
            (.integer record.directoryId)⟩))) = some (.truth (record.directoryId == row.id)) := rfl
    have same : (Datum.integer record.directoryId == Datum.integer row.id) = (record.directoryId == row.id) := by
      rw [Bool.eq_iff_iff, beq_iff_eq, beq_iff_eq, Datum.integer.injEq]
    rw [Environment.holds?, evaluated, same]
  rw [Setting.join?, Option.bind_eq_bind, filterBy?_eq_filter holds, filter_recordCounts]
  by_cases listed : row.id ∈ content.records.map RecordRow.directoryId
  · rw [if_pos listed]
    exact ⟨_, rfl, rfl⟩
  · rw [if_neg listed]
    have zero : content.records.countP (fun record => record.directoryId == row.id) = 0 := by
      rw [List.countP_eq_zero]
      intro record member same
      exact listed (List.mem_map.mpr ⟨record, member, eq_of_beq same⟩)
    rw [zero]
    exact ⟨none, rfl, rfl⟩

theorem Mirrors.countP_directoryId {content : Content} {t : Tables} (mirrors : content.Mirrors t)
    (id : DirectoryId) :
    (content.records.countP fun row => row.directoryId == id.number) = t.recordCount id := by
  have same := map_eq_of_forall₂ mirrors.records fun _ _ shown => RecordRow.Shows.directory shown
  have counts := congrArg (List.countP (· == id.number)) same
  rw [List.countP_map, List.countP_map] at counts
  refine counts.trans (List.countP_congr fun record _ => ?_)
  simp only [Function.comp, beq_iff_eq]
  exact DirectoryId.number_injective.eq_iff

/-- A directory that was joined with its count shows it. -/
structure ShowsCounted (t : Tables) (counted : DirectoryRow × Option Group) (directory : Directory) : Prop where
  row : counted.1.Shows directory
  count : countOf counted.2 = t.recordCount directory.id

theorem renders_summary (setting : Setting) (t : Tables) :
    Renders (fun (row, group) => (setting.environment (directoryCounts.column? row group)).cells?
        directoryCounts.results) directoryCounts.names (ShowsCounted t) Row.summary
      fun directory => directory.summary (t.recordCount directory.id) := by
  rintro ⟨row, group⟩ directory ⟨shown, same⟩
  refine ⟨row.cells ++ [.integer (t.recordCount directory.id)], ?_, ?_⟩
  · rw [← same]
    cases group <;> rfl
  · have found : Row.directory ⟨directoryCounts.names,
        row.cells ++ [.integer (t.recordCount directory.id)]⟩ = row.decoded := rfl
    rw [Row.summary, found, shown.decoded]
    rfl
/-- The listing shows the summaries of all directories. -/
theorem Mirrors.selectJoined? {content : Content} {t : Tables} (mirrors : content.Mirrors t) (sound : t.Sound)
    (setting : Setting) (arrangement : Arrangement) :
    ∃ result, setting.selectJoined? arrangement content.directories directoryCounts content.recordCounts =
        some result ∧ result.all Row.summary = .ok t.summaries := by
  have joins : ∀ row directory, DirectoryRow.Shows row directory →
      ∃ counted, setting.join? directoryCounts content.recordCounts row = some [counted] ∧
        ShowsCounted t counted directory := by
    intro row directory shown
    rcases content.join?_directoryCounts setting row with ⟨group, joined, same⟩
    rw [shown.id, mirrors.countP_directoryId] at same
    exact ⟨_, joined, shown, same⟩
  rcases mapM_of_forall₂ mirrors.directories joins with ⟨joined, computed, joinedMirrored⟩
  have ascends : joined.flatten.Pairwise fun a b => Columns.id a.1 < Columns.id b.1 := by
    have same := map_eq_of_forall₂ joinedMirrored fun _ _ shown => (ShowsCounted.row shown).id
    have valuesAscend := sound.directories_ascend
    rw [← List.pairwise_map, ← same, List.pairwise_map] at valuesAscend
    exact valuesAscend
  have sortedBack := sorted_of_perm ascends (arrangement.perm setting.now joined.flatten) .ascending
  rcases (renders_summary setting t).decodeRows joinedMirrored with ⟨cells, rendered, decoded⟩
  rw [← Tables.summaries_eq] at decoded
  refine ⟨⟨directoryCounts.names, cells, cells.length⟩, ?_, decoded⟩
  simp only [Setting.selectJoined?, computed, Option.bind_eq_bind, Option.bind_some, sortedBack, inOrder, rendered]

end Content

end Sql
end RecordDirectory
