import Mathlib.Data.List.Nodup
import Mathlib.Data.List.Sort
import RecordDirectory.Proofs.Keyed

set_option linter.unusedSectionVars false

universe u v

namespace RecordDirectory
namespace Keyed

/-!
# Maps as lists of values

The values of a map in the order of their keys are what a table of rows can be compared with.  Storing
under a key above all others appends, storing under a key in use replaces in place, and erasing takes one
value out, so that nothing else moves.

All of this is about maps in which every value carries the key that it is stored under.
-/

variable {κ : Type u} {α : Type v} [Ord κ] [DecidableEq κ] [Std.TransOrd κ] [Std.LawfulEqOrd κ]

theorem lt_irrefl {key : κ} : compare key key ≠ .lt := by
  simp

/-- Ascending lists with the same members are the same. -/
theorem eq_of_ascending {first second : List κ} (firstAscends : first.Pairwise fun a b => compare a b = .lt)
    (secondAscends : second.Pairwise fun a b => compare a b = .lt) (same : ∀ key, key ∈ first ↔ key ∈ second) :
    first = second := by
  have distinct : ∀ l : List κ, (l.Pairwise fun a b => compare a b = .lt) → l.Nodup := by
    intro l ascends
    refine ascends.imp fun {a b} below same => ?_
    rw [same] at below
    exact lt_irrefl below
  have perm := (List.perm_ext_iff_of_nodup (distinct first firstAscends) (distinct second secondAscends)).mpr same
  refine perm.eq_of_pairwise (fun a b _ _ below above => ?_) firstAscends secondAscends
  exact absurd (Std.TransCmp.lt_trans below above) lt_irrefl

theorem distinct_distinct (l : List κ) : distinct (distinct l) = distinct l :=
  eq_of_ascending (distinct_ascending _) (distinct_ascending _) fun _ => mem_distinct

/-- A list of entries in which no key has two values answers with its entries, whatever their order. -/
theorem get?_ofList_eq_some_iff {l : List (κ × α)} {key : κ} {value : α}
    (functional : ∀ other, (key, other) ∈ l → ∀ another, (key, another) ∈ l → other = another) :
    (ofList l).get? key = some value ↔ (key, value) ∈ l := by
  rw [get?_ofList]
  constructor
  · exact fun found => List.mem_reverse.mp (mem_entries_of_lookup found)
  · intro listed
    cases found : lookup key l.reverse with
    | none =>
        have named : key ∈ l.reverse.map Prod.fst := List.mem_map.mpr ⟨_, List.mem_reverse.mpr listed, rfl⟩
        rw [← isSome_lookup_iff, found] at named
        cases named
    | some other =>
        exact congrArg some (functional other (List.mem_reverse.mp (mem_entries_of_lookup found)) value listed)

/-- A list of entries with distinct keys answers with each of them. -/
theorem get?_ofList_of_mem {l : List (κ × α)} (distinct : (l.map Prod.fst).Nodup) {entry : κ × α}
    (listed : entry ∈ l) : (ofList l).get? entry.1 = some entry.2 := by
  refine (get?_ofList_eq_some_iff fun other otherListed another anotherListed => ?_).mpr listed
  exact congrArg Prod.snd (List.inj_on_of_nodup_map distinct otherListed anotherListed rfl)

/-- Every value carries the key that it is stored under. -/
def CarriesKeys (keyOf : α → κ) (m : Keyed κ α) : Prop :=
  ∀ entry ∈ m.entries, keyOf entry.2 = entry.1

variable {keyOf : α → κ} {m : Keyed κ α}

theorem carriesKeys_iff : m.CarriesKeys keyOf ↔ ∀ key value, m.get? key = some value → keyOf value = key := by
  simp only [CarriesKeys, ← mem_entries_iff]
  exact ⟨fun carries key value listed => carries _ listed, fun carries entry listed => carries _ _ listed⟩

theorem CarriesKeys.map_values (carries : m.CarriesKeys keyOf) : m.values.map keyOf = m.keys := by
  rw [values, keys, List.map_map]
  exact List.map_congr_left carries

theorem CarriesKeys.values_ascending (carries : m.CarriesKeys keyOf) :
    m.values.Pairwise fun a b => compare (keyOf a) (keyOf b) = .lt := by
  have ascends := m.keys_ascending
  rw [← carries.map_values, List.pairwise_map] at ascends
  exact ascends

private theorem map_filter_lookup {key : κ} {l : List (κ × α)}
    (ascends : l.Pairwise fun a b => compare a.1 b.1 = .lt) :
    (l.filter fun entry => decide (entry.1 = key)).map Prod.snd = (lookup key l).toList := by
  induction l with
  | nil => rfl
  | cons head rest inductionHypothesis =>
      rcases List.pairwise_cons.mp ascends with ⟨above, restAscends⟩
      by_cases same : head.1 = key
      · have noOther : rest.filter (fun entry => decide (entry.1 = key)) = [] := by
          rw [List.filter_eq_nil_iff]
          intro entry listed equal
          have below := above entry listed
          rw [same, of_decide_eq_true equal] at below
          exact lt_irrefl below
        simp [lookup, same, noOther]
      · have different : key ≠ head.1 := fun equal => same equal.symm
        simp [lookup, same, different, inductionHypothesis restAscends]

/-- The values with a key are the one that is stored under it, if any. -/
theorem CarriesKeys.filter_values (carries : m.CarriesKeys keyOf) (key : κ) :
    m.values.filter (fun value => decide (keyOf value = key)) = (m.get? key).toList := by
  rw [get?, ← map_filter_lookup m.ascending, values, List.filter_map]
  refine congrArg (List.map Prod.snd) (List.filter_congr fun entry listed => ?_)
  simp only [Function.comp, carries entry listed]

/-- Erasing a key takes out the values with it. -/
theorem CarriesKeys.values_erase (carries : m.CarriesKeys keyOf) (key : κ) :
    (m.erase key).values = m.values.filter fun value => !decide (keyOf value = key) := by
  rw [values, values, List.filter_map]
  refine congrArg (List.map Prod.snd) (List.filter_congr fun entry listed => ?_)
  simp only [Function.comp, carries entry listed]
  by_cases same : entry.1 = key
  · simp [same]
  · have different : key ≠ entry.1 := fun equal => same equal.symm
    simp [same, different]

private theorem place_of_above {key : κ} {value : α} {l : List (κ × α)}
    (above : ∀ entry ∈ l, compare entry.1 key = .lt) : place key value l = l ++ [(key, value)] := by
  induction l with
  | nil => rfl
  | cons head rest inductionHypothesis =>
      rcases List.forall_mem_cons.mp above with ⟨first, later⟩
      simp only [place, Std.OrientedCmp.gt_of_lt first, inductionHypothesis later, List.cons_append]

/-- A key above all others is stored behind them. -/
theorem values_insert_of_above {key : κ} {value : α} (above : ∀ entry ∈ m.entries, compare entry.1 key = .lt) :
    (m.insert key value).values = m.values ++ [value] := by
  simp [values, insert, place_of_above above]

private theorem place_of_used {key : κ} {value : α} {l : List (κ × α)}
    (ascends : l.Pairwise fun a b => compare a.1 b.1 = .lt) (used : key ∈ l.map Prod.fst) :
    place key value l = l.map fun entry => if entry.1 = key then (key, value) else entry := by
  induction l with
  | nil => cases used
  | cons head rest inductionHypothesis =>
      rcases List.pairwise_cons.mp ascends with ⟨above, restAscends⟩
      have others : ∀ entry ∈ rest, head.1 = key → entry.1 ≠ key := by
        intro entry listed same equal
        have below := above entry listed
        rw [same, equal] at below
        exact lt_irrefl below
      rcases List.mem_cons.mp used with same | later
      · have kept : rest.map (fun entry => if entry.1 = key then (key, value) else entry) = rest := by
          refine (List.map_congr_left fun entry listed => ?_).trans (List.map_id rest)
          rw [if_neg (others entry listed same.symm), id]
        rw [List.map_cons, if_pos same.symm, kept, same]
        simp only [place, Std.compare_self]
      · rcases List.mem_map.mp later with ⟨entry, listed, named⟩
        have below := above entry listed
        rw [named] at below
        have different : head.1 ≠ key := fun same => others entry listed same named
        simp only [place, Std.OrientedCmp.gt_of_lt below, List.map_cons, if_neg different]
        rw [inductionHypothesis restAscends later]

/-- A key in use keeps its place. -/
theorem CarriesKeys.values_insert_of_used (carries : m.CarriesKeys keyOf) {key : κ} {stored : α}
    (used : m.get? key = some stored) (value : α) :
    (m.insert key value).values = m.values.map fun other => if keyOf other = key then value else other := by
  have named : key ∈ m.entries.map Prod.fst := List.mem_map.mpr ⟨_, mem_entries_iff.mpr used, rfl⟩
  simp only [values, insert, place_of_used m.ascending named, List.map_map]
  refine List.map_congr_left fun entry listed => ?_
  simp only [Function.comp, carries entry listed]
  split <;> rfl

/-- Changing the value under a key, if there is one, changes the values with it. -/
theorem CarriesKeys.values_modify (carries : m.CarriesKeys keyOf) (key : κ) (change : α → α) :
    ((m.get? key).elim m fun stored => m.insert key (change stored)).values =
      m.values.map fun value => if keyOf value = key then change value else value := by
  have unique : ∀ value ∈ m.values, keyOf value = key → m.get? key = some value := by
    intro value listed named
    rcases mem_values_iff.mp listed with ⟨other, stored⟩
    rw [← named, carriesKeys_iff.mp carries other value stored, stored]
  cases used : m.get? key with
  | some stored =>
      rw [Option.elim_some, carries.values_insert_of_used used]
      refine List.map_congr_left fun value listed => ?_
      split
      · next named =>
        have found := unique value listed named
        rw [used] at found
        cases found
        rfl
      · rfl
  | none =>
      refine ((List.map_congr_left fun value listed => ?_).trans (List.map_id _)).symm
      refine if_neg fun named => ?_
      have found := unique value listed named
      rw [used] at found
      cases found

/-- A key is in use if there are values with it. -/
theorem CarriesKeys.countP_pos (carries : m.CarriesKeys keyOf) (key : κ) :
    decide (0 < m.values.countP fun value => decide (keyOf value = key)) = m.contains key := by
  rw [List.countP_eq_length_filter, carries.filter_values, contains]
  cases m.get? key <;> rfl

theorem erase_of_not_contains {key : κ} (unused : m.contains key = false) : m.erase key = m := by
  apply ext_get?
  intro other
  rw [get?_erase]
  split
  · next same =>
    rw [same]
    exact (Option.not_isSome_iff_eq_none.mp (Bool.eq_false_iff.mp unused)).symm
  · rfl

end Keyed
end RecordDirectory
