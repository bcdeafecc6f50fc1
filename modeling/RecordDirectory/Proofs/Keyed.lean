import RecordDirectory.Keyed.Lemmas

set_option linter.unusedSectionVars false

universe u v

namespace RecordDirectory
namespace Keyed

/-!
# Maps made from lists

What a map made from a list of entries answers.  A map that tabulates a partial function over a list of
keys answers like the function on these keys, however often and in whatever order they are listed.
-/

variable {κ : Type u} {α : Type v} [Ord κ] [DecidableEq κ] [Std.TransOrd κ] [Std.LawfulEqOrd κ]

theorem isSome_lookup_iff {key : κ} {l : List (κ × α)} :
    (lookup key l).isSome = true ↔ key ∈ l.map Prod.fst := by
  induction l with
  | nil => simp [lookup]
  | cons head rest inductionHypothesis =>
      by_cases same : key = head.1
      · simp [lookup, same]
      · simp [lookup, same, inductionHypothesis]

private theorem first_of_lookup {key : κ} {value : α} {l : List (κ × α)} (found : lookup key l = some value) :
    ∃ before after, l = before ++ (key, value) :: after ∧ key ∉ before.map Prod.fst := by
  induction l with
  | nil => cases found
  | cons head rest inductionHypothesis =>
      by_cases same : key = head.1
      · subst same
        simp only [lookup, Std.compare_self, if_true, Option.some.injEq] at found
        exact ⟨[], rest, by rw [← found]; rfl, List.not_mem_nil⟩
      · simp only [lookup, Std.compare_eq_iff_eq, same, if_false] at found
        rcases inductionHypothesis found with ⟨before, after, split, unused⟩
        exact ⟨head :: before, after, congrArg (head :: ·) split, by simp [same, unused]⟩

/-- Of several entries with one key, the one that a map made from a list answers with is the last. -/
theorem last_of_get?_ofList {l : List (κ × α)} {key : κ} {value : α}
    (found : (ofList l).get? key = some value) :
    ∃ before after, l = before ++ (key, value) :: after ∧ key ∉ after.map Prod.fst := by
  rw [get?_ofList] at found
  rcases first_of_lookup found with ⟨before, after, split, unused⟩
  refine ⟨after.reverse, before.reverse, ?_, by simpa using unused⟩
  simpa using congrArg List.reverse split

private theorem lookup_append_of_unused {key : κ} {l : List (κ × α)} (unused : key ∉ l.map Prod.fst)
    (rest : List (κ × α)) : lookup key (l ++ rest) = lookup key rest := by
  induction l with
  | nil => rfl
  | cons head l inductionHypothesis =>
      rw [List.map_cons, List.mem_cons, not_or] at unused
      simp only [List.cons_append, lookup, Std.compare_eq_iff_eq, unused.1, if_false,
        inductionHypothesis unused.2]

/-- The last entry with a key is the one that a map made from a list answers with. -/
theorem get?_ofList_of_last {before after : List (κ × α)} {key : κ} {value : α}
    (unused : key ∉ after.map Prod.fst) : (ofList (before ++ (key, value) :: after)).get? key = some value := by
  have behind : key ∉ after.reverse.map Prod.fst := by
    rwa [List.map_reverse, List.mem_reverse]
  rw [get?_ofList, List.reverse_append, List.reverse_cons, List.append_assoc, lookup_append_of_unused behind]
  simp [lookup]

/-- A map made from a list has the keys of the list. -/
theorem isSome_get?_ofList {l : List (κ × α)} {key : κ} :
    ((ofList l).get? key).isSome = true ↔ key ∈ l.map Prod.fst := by
  rw [get?_ofList, isSome_lookup_iff, List.map_reverse, List.mem_reverse]

private theorem lookup_filterMap (f : κ → Option α) (key : κ) (keys : List κ) :
    lookup key (keys.filterMap fun k => (f k).map fun a => (k, a)) = if key ∈ keys then f key else none := by
  induction keys with
  | nil => rfl
  | cons head rest inductionHypothesis =>
      cases found : f head with
      | none =>
          rw [List.filterMap_cons_none (by simp [found]), inductionHypothesis]
          by_cases same : key = head
          · subst same
            simp [found]
          · simp [same]
      | some a =>
          rw [List.filterMap_cons_some (b := (head, a)) (by simp [found])]
          by_cases same : key = head
          · subst same
            simp [lookup, found]
          · simp [lookup, same, inductionHypothesis]

/-- A map that tabulates a partial function answers like the function on the tabulated keys. -/
theorem get?_ofList_filterMap (f : κ → Option α) (keys : List κ) (key : κ) :
    (ofList (keys.filterMap fun k => (f k).map fun a => (k, a))).get? key =
      if key ∈ keys then f key else none := by
  rw [get?_ofList, ← List.filterMap_reverse, lookup_filterMap]
  simp

/-- A map is made from its own entries. -/
theorem ofList_entries (m : Keyed κ α) : ofList m.entries = m := by
  apply ext_get?
  intro key
  rw [get?_ofList]
  cases found : lookup key m.entries.reverse with
  | some value =>
      have listed := List.mem_reverse.mp (mem_entries_of_lookup found)
      exact (mem_entries_iff.mp listed).symm
  | none =>
      cases stored : m.get? key with
      | none => rfl
      | some value =>
          have listed : key ∈ m.entries.reverse.map Prod.fst :=
            List.mem_map.mpr ⟨_, List.mem_reverse.mpr (mem_entries_iff.mpr stored), rfl⟩
          rw [← isSome_lookup_iff, found] at listed
          cases listed

theorem contains_iff {m : Keyed κ α} {key : κ} : m.contains key = true ↔ ∃ value, m.get? key = some value :=
  Option.isSome_iff_exists

/-- What is stored already can be stored again. -/
theorem insert_of_get? {m : Keyed κ α} {key : κ} {value : α} (stored : m.get? key = some value) :
    m.insert key value = m := by
  apply ext_get?
  intro other
  rw [get?_insert]
  split
  · next same => rw [same, stored]
  · rfl

end Keyed
end RecordDirectory
