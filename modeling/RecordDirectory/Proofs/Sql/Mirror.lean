import Mathlib.Data.List.Perm.Basic
import RecordDirectory.Proofs.Keyed.Values
import RecordDirectory.Proofs.Sql.Condition
import RecordDirectory.Proofs.Sql.Server
import RecordDirectory.Proofs.Stored.Forms

namespace RecordDirectory
namespace Sql

/-!
# Rows that mirror values

The rows of a table stand to the stored directories or records one to one and in the same order.  What a
statement does to such rows is then what filtering, mapping or cutting does to the values, as soon as its
condition is known to decide them.

Nothing here is about a particular statement.  A row also has times, which the values do not have and which
no result shows, so many rows mirror one value.
-/

/-- A row of a directory, with fields that read back. -/
structure DirectoryRow.Shows (row : DirectoryRow) (directory : Directory) : Prop where
  id : row.id = directory.id.number
  code : row.code = directory.code
  name : row.name = directory.name
  fields : row.fields = FieldDefinition.listToJson directory.fields
  readBack : FieldDefinition.listOfJson? row.fields = some directory.fields

/-- A row of a record, with values that read back. -/
structure RecordRow.Shows (row : RecordRow) (record : Record) : Prop where
  id : row.id = record.id.number
  directory : row.directoryId = record.directory.number
  values : row.fieldValues = record.values.toJson
  readBack : Values.ofJson? row.fieldValues = some record.values

/-- Rows of both tables that mirror what is stored in memory. -/
structure Content.Mirrors (content : Content) (t : Tables) : Prop where
  directories : List.Forall₂ DirectoryRow.Shows content.directories t.directories.values
  records : List.Forall₂ RecordRow.Shows content.records t.records.values

/-! ## Lists of rows -/

section Rows

variable {ρ α : Type} {shows : ρ → α → Prop} {rows : List ρ} {values : List α}

/-- What rows and values have in common is the same list. -/
theorem map_eq_of_forall₂ {β : Type} {ofRow : ρ → β} {ofValue : α → β}
    (mirrored : List.Forall₂ shows rows values)
    (same : ∀ row value, shows row value → ofRow row = ofValue value) :
    rows.map ofRow = values.map ofValue := by
  rw [← List.forall₂_eq_eq_eq, List.forall₂_map_left_iff, List.forall₂_map_right_iff]
  exact mirrored.imp same

theorem any_eq_of_forall₂ {ofRow : ρ → Bool} {ofValue : α → Bool}
    (mirrored : List.Forall₂ shows rows values)
    (same : ∀ row value, shows row value → ofRow row = ofValue value) :
    rows.any ofRow = values.any ofValue := by
  have mapped := congrArg (List.any · id) (map_eq_of_forall₂ mirrored same)
  rw [List.any_map, List.any_map] at mapped
  exact mapped

/-- Rows in another order mirror values in another order. -/
theorem exists_perm_of_forall₂ (mirrored : List.Forall₂ shows rows values) {arranged : List ρ}
    (perm : arranged.Perm rows) : ∃ others, List.Forall₂ shows arranged others ∧ others.Perm values := by
  rcases List.perm_comp_forall₂ perm mirrored with ⟨others, arrangedMirrored, othersPerm⟩
  exact ⟨others, arrangedMirrored, othersPerm⟩

/-- What ascends, put in an order. -/
def inOrder (order : SortOrder) (items : List α) : List α :=
  match order with
  | .ascending => items
  | .descending => items.reverse

@[simp]
theorem length_inOrder (order : SortOrder) : (inOrder order values).length = values.length := by
  cases order with
  | ascending => rfl
  | descending => exact List.length_reverse

theorem inOrder_of_forall₂ (mirrored : List.Forall₂ shows rows values) (order : SortOrder) :
    List.Forall₂ shows (inOrder order rows) (inOrder order values) := by
  cases order with
  | ascending => exact mirrored
  | descending => exact List.rel_reverse mirrored

/-- Rows in one order are sorted into it from any other. -/
theorem sorted_of_perm {idOf : ρ → Int} (ascends : rows.Pairwise fun a b => idOf a < idOf b) {arranged : List ρ}
    (perm : arranged.Perm rows) (order : SortOrder) : sorted idOf order arranged = inOrder order rows := by
  have distinct : (rows.map idOf).Nodup := by
    rw [List.nodup_iff_pairwise_ne, List.pairwise_map]
    exact ascends.imp Int.ne_of_lt
  have same : ∀ a ∈ rows, ∀ b ∈ rows, idOf a ≤ idOf b → idOf b ≤ idOf a → a = b :=
    fun a listed b alsoListed below above =>
      List.inj_on_of_nodup_map distinct listed alsoListed (Int.le_antisymm below above)
  cases order with
  | ascending =>
      have rises : (sorted idOf .ascending arranged).Pairwise fun a b => decide (idOf a ≤ idOf b) = true := by
        refine List.pairwise_mergeSort (fun a b c below above => ?_) (fun a b => ?_) arranged
        · exact decide_eq_true (Int.le_trans (of_decide_eq_true below) (of_decide_eq_true above))
        · simpa using Int.le_total (idOf a) (idOf b)
      have permSorted : (sorted idOf .ascending arranged).Perm rows := (List.mergeSort_perm _ _).trans perm
      refine permSorted.eq_of_pairwise (fun a b inSorted inRows below above => ?_) rises
        (ascends.imp fun below => decide_eq_true (Int.le_of_lt below))
      exact same a (permSorted.mem_iff.mp inSorted) b inRows (of_decide_eq_true below) (of_decide_eq_true above)
  | descending =>
      have falls : (sorted idOf .descending arranged).Pairwise fun a b => decide (idOf b ≤ idOf a) = true := by
        refine List.pairwise_mergeSort (fun a b c above below => ?_) (fun a b => ?_) arranged
        · exact decide_eq_true (Int.le_trans (of_decide_eq_true below) (of_decide_eq_true above))
        · simpa using Int.le_total (idOf b) (idOf a)
      have reversed : rows.reverse.Pairwise fun a b => decide (idOf b ≤ idOf a) = true := by
        rw [List.pairwise_reverse]
        exact ascends.imp fun below => decide_eq_true (Int.le_of_lt below)
      have permSorted : (sorted idOf .descending arranged).Perm rows.reverse :=
        ((List.mergeSort_perm _ _).trans perm).trans rows.reverse_perm.symm
      refine permSorted.eq_of_pairwise (fun a b inSorted inReversed above below => ?_) falls reversed
      exact same a (List.mem_reverse.mp (permSorted.mem_iff.mp inSorted)) b (List.mem_reverse.mp inReversed)
        (of_decide_eq_true below) (of_decide_eq_true above)

/-- Rows that are each joined once mirror the same values. -/
theorem mapM_of_forall₂ {ρ₁ : Type} {shows₁ : ρ₁ → α → Prop} {join? : ρ → Option (List ρ₁)}
    (mirrored : List.Forall₂ shows rows values)
    (each : ∀ row value, shows row value → ∃ other, join? row = some [other] ∧ shows₁ other value) :
    ∃ joined, rows.mapM join? = some joined ∧ List.Forall₂ shows₁ joined.flatten values := by
  induction mirrored with
  | nil => exact ⟨[], rfl, .nil⟩
  | @cons row value rows values shown _ inductionHypothesis =>
      rcases inductionHypothesis with ⟨later, laterJoined, laterMirrored⟩
      rcases each row value shown with ⟨other, joined, otherShown⟩
      exact ⟨[other] :: later, by simp [joined, laterJoined], .cons otherShown laterMirrored⟩

/-- Contents of columns that show what is read from the value of a row. -/
def Renders {ρ α β : Type} (cells? : ρ → Option (List Cell)) (columns : List String) (shows : ρ → α → Prop)
    (decode : Row → Except StoreError β) (read : α → β) : Prop :=
  ∀ row value, shows row value → ∃ cells, cells? row = some cells ∧ decode ⟨columns, cells⟩ = .ok (read value)

theorem Renders.decodeRows {β : Type} {cells? : ρ → Option (List Cell)} {columns : List String}
    {decode : Row → Except StoreError β} {read : α → β} (renders : Renders cells? columns shows decode read)
    (mirrored : List.Forall₂ shows rows values) :
    ∃ cells, rows.mapM cells? = some cells ∧
      ResultSet.decodeRows decode (cells.map fun cells => ⟨columns, cells⟩) = .ok (values.map read) := by
  induction mirrored with
  | nil => exact ⟨[], rfl, rfl⟩
  | @cons row value rows values shown _ inductionHypothesis =>
      rcases inductionHypothesis with ⟨later, laterComputed, laterDecoded⟩
      rcases renders row value shown with ⟨cells, computed, decoded⟩
      refine ⟨cells :: later, by simp [computed, laterComputed], ?_⟩
      simp only [List.map_cons, ResultSet.decodeRows, decoded, laterDecoded]

end Rows

/-! ## Statements on rows -/

namespace Setting

variable {ρ α : Type} [Columns ρ] {shows : ρ → α → Prop} {rows : List ρ} {values : List α}
variable {setting : Setting} {condition : Expr} {chosen : α → Bool}

/-- A condition is true of the rows of chosen values, and false of the others. -/
def Decides (setting : Setting) (condition : Expr) (shows : ρ → α → Prop) (chosen : α → Bool) : Prop :=
  ∀ row value, shows row value → setting.holds? condition row = some (chosen value)

theorem holds?_of_eval? {row : ρ} {held : Bool}
    (evaluated : condition.eval? (setting.environment (Columns.column? row)) = some (.truth held)) :
    setting.holds? condition row = some held := by
  rw [holds?, Environment.holds?, evaluated]

theorem filter?_cons (setting : Setting) (condition : Expr) (row : ρ) (rest : List ρ) :
    setting.filter? condition (row :: rest) =
      (setting.holds? condition row).bind fun holds =>
        (setting.filter? condition rest).bind fun later => some (if holds then row :: later else later) :=
  rfl

theorem Decides.filter? (decides : setting.Decides condition shows chosen)
    (mirrored : List.Forall₂ shows rows values) :
    ∃ found, setting.filter? condition rows = some found ∧
      List.Forall₂ shows found (values.filter chosen) := by
  induction mirrored with
  | nil => exact ⟨[], rfl, .nil⟩
  | @cons row value rows values shown _ inductionHypothesis =>
      rcases inductionHypothesis with ⟨found, filtered, foundMirrored⟩
      have held := decides row value shown
      cases picked : chosen value with
      | true =>
          rw [picked] at held
          refine ⟨row :: found, by simp [Setting.filter?_cons, held, filtered], ?_⟩
          rw [List.filter_cons_of_pos picked]
          exact .cons shown foundMirrored
      | false =>
          rw [picked] at held
          refine ⟨found, by simp [Setting.filter?_cons, held, filtered], ?_⟩
          rw [List.filter_cons_of_neg (by simp [picked])]
          exact foundMirrored

theorem Decides.delete? (decides : setting.Decides condition shows chosen)
    (mirrored : List.Forall₂ shows rows values) :
    ∃ kept, setting.delete? condition rows = some (kept, values.countP chosen) ∧
      List.Forall₂ shows kept (values.filter fun value => !chosen value) := by
  induction mirrored with
  | nil => exact ⟨[], rfl, .nil⟩
  | @cons row value rows values shown _ inductionHypothesis =>
      rcases inductionHypothesis with ⟨kept, deleted, keptMirrored⟩
      have held := decides row value shown
      cases picked : chosen value with
      | true =>
          rw [picked] at held
          refine ⟨kept, by simp [Setting.delete?, held, deleted, picked], ?_⟩
          rw [List.filter_cons_of_neg (by simp [picked])]
          exact keptMirrored
      | false =>
          rw [picked] at held
          refine ⟨row :: kept, by simp [Setting.delete?, held, deleted, picked], ?_⟩
          rw [List.filter_cons_of_pos (by simp [picked])]
          exact .cons shown keptMirrored

theorem Decides.update? {assignments : List (String × Expr)} {change : α → α}
    (decides : setting.Decides condition shows chosen)
    (changes : ∀ row value, shows row value →
      ∃ changed, setting.change? assignments row = some changed ∧ shows changed (change value))
    (mirrored : List.Forall₂ shows rows values) :
    ∃ later, setting.update? assignments condition rows = some (later, values.countP chosen) ∧
      List.Forall₂ shows later (values.map fun value => if chosen value then change value else value) := by
  induction mirrored with
  | nil => exact ⟨[], rfl, .nil⟩
  | @cons row value rows values shown _ inductionHypothesis =>
      rcases inductionHypothesis with ⟨later, updated, laterMirrored⟩
      have held := decides row value shown
      cases picked : chosen value with
      | true =>
          rw [picked] at held
          rcases changes row value shown with ⟨changed, computed, changedShown⟩
          refine ⟨changed :: later, by simp [Setting.update?, held, updated, computed, picked], ?_⟩
          rw [List.map_cons, if_pos picked]
          exact .cons changedShown laterMirrored
      | false =>
          rw [picked] at held
          refine ⟨row :: later, by simp [Setting.update?, held, updated, picked], ?_⟩
          rw [List.map_cons, if_neg (by simp [picked])]
          exact .cons shown laterMirrored

theorem any_isCount_columns (columns : List String) : (columns.map Expr.column).any Expr.isCount = false := by
  rw [List.any_map, List.any_eq_false]
  exact fun _ _ counts => by cases counts

/-- A selection shows what is read from the values of its rows, after sorting and cutting. -/
theorem select?_of_renders {β : Type} {columns : List String} {decode : Row → Except StoreError β}
    {read : α → β} (renders : Renders (setting.cells? (columns.map .column)) columns shows decode read)
    (arrangement : Arrangement) {found shown : List ρ} {order : Option SortOrder} {window : Option Window}
    (filtered : setting.filter? condition rows = some found)
    (cut : setting.window? window (arrangement.ordered Columns.id setting.now order found) = some shown)
    (mirrored : List.Forall₂ shows shown values) :
    ∃ result, setting.select? arrangement rows (columns.map .column) condition order window = some result ∧
      result.all decode = .ok (values.map read) := by
  rcases renders.decodeRows mirrored with ⟨cells, computed, decoded⟩
  have named : (columns.map Expr.column).map Expr.columnName = columns := by
    rw [List.map_map]
    exact List.map_id columns
  refine ⟨⟨columns, cells, cells.length⟩, ?_, decoded⟩
  simp only [Setting.select?, filtered, any_isCount_columns, cut, computed, named, Option.bind_eq_bind,
    Option.bind_some, Bool.false_eq_true, if_false]

/-- A selection without an order shows what is read from the chosen values, in any order. -/
theorem Decides.select? {β : Type} {columns : List String} {decode : Row → Except StoreError β} {read : α → β}
    (decides : setting.Decides condition shows chosen)
    (renders : Renders (setting.cells? (columns.map .column)) columns shows decode read)
    (arrangement : Arrangement) (mirrored : List.Forall₂ shows rows values) :
    ∃ result items, setting.select? arrangement rows (columns.map .column) condition none none = some result ∧
      result.all decode = .ok items ∧ items.Perm ((values.filter chosen).map read) := by
  rcases decides.filter? mirrored with ⟨found, filtered, foundMirrored⟩
  rcases exists_perm_of_forall₂ foundMirrored (arrangement.perm setting.now found) with ⟨others, shown, perm⟩
  have cut : setting.window? none (arrangement.ordered Columns.id setting.now none found) =
      some (arrangement.arrange setting.now found) := rfl
  rcases select?_of_renders renders arrangement filtered cut shown with ⟨result, selected, decoded⟩
  exact ⟨result, others.map read, selected, decoded, perm.map read⟩

/-- A selection that counts gives one row with the number of the chosen values. -/
theorem Decides.select?_count (decides : setting.Decides condition shows chosen) (arrangement : Arrangement)
    (mirrored : List.Forall₂ shows rows values) :
    setting.select? arrangement rows [.call "COUNT" [.column "*"]] condition none none =
      some ⟨["count"], [[.integer (values.countP chosen)]], 1⟩ := by
  rcases decides.filter? mirrored with ⟨found, filtered, foundMirrored⟩
  rw [List.countP_eq_length_filter, ← foundMirrored.length_eq]
  simp only [Setting.select?, filtered, Option.bind_eq_bind, Option.bind_some]
  rfl

end Setting
end Sql
end RecordDirectory
