import RecordDirectory.Keyed

/-!
Keyed lists seen through their look-ups.

Each operation has one lemma that says what it does to `get?`, the entries are exactly the look-ups
that succeed (`mem_entries_iff`), and two keyed lists with the same look-ups are equal (`ext_get?`).
-/

set_option linter.unusedSectionVars false

universe u v

namespace RecordDirectory
namespace Keyed

section Entries

variable {κ : Type u} {α : Type v} [Ord κ]

@[simp]
theorem get?_empty (key : κ) : (empty : Keyed κ α).get? key = none := rfl

/-- The keys are in strictly ascending order. -/
theorem keys_ascending (m : Keyed κ α) : m.keys.Pairwise fun a b => compare a b = .lt := by
  rw [keys, List.pairwise_map]
  exact m.ascending

variable [DecidableEq κ] [Std.LawfulEqOrd κ]

theorem mem_entries_of_lookup {key : κ} {value : α} {l : List (κ × α)} (h : lookup key l = some value) :
    (key, value) ∈ l := by
  induction l with
  | nil => simp [lookup] at h
  | cons head rest ih =>
    obtain ⟨k, a⟩ := head
    by_cases hk : key = k
    · subst hk
      simp_all [lookup]
    · simp only [lookup, Std.compare_eq_iff_eq, hk, if_false] at h
      exact List.mem_cons_of_mem _ (ih h)

theorem lookup_eq_none_of_forall_ne {key : κ} {l : List (κ × α)} (h : ∀ e ∈ l, key ≠ e.1) :
    lookup key l = none := by
  induction l with
  | nil => rfl
  | cons head rest ih =>
    obtain ⟨k, a⟩ := head
    have hk : key ≠ k := h (k, a) (by simp)
    simp [lookup, hk, ih fun e he => h e (by simp [he])]

theorem get?_mapValues {β : Type v} (f : α → β) (m : Keyed κ α) (key : κ) :
    (m.mapValues f).get? key = (m.get? key).map f := by
  show lookup key (m.entries.map fun e => (e.1, f e.2)) = (lookup key m.entries).map f
  induction m.entries with
  | nil => rfl
  | cons head rest ih =>
    obtain ⟨k, a⟩ := head
    by_cases h : key = k <;> simp [lookup, h, ih]

/-- Erasing a key forgets it and no other. -/
@[simp]
theorem get?_erase (m : Keyed κ α) (key key' : κ) :
    (m.erase key).get? key' = if key' = key then none else m.get? key' := by
  show lookup key' (m.entries.filter fun e => compare key e.1 != .eq) =
    if key' = key then none else lookup key' m.entries
  induction m.entries with
  | nil => simp [lookup]
  | cons head rest ih =>
    obtain ⟨k, a⟩ := head
    by_cases hk : key = k
    · subst hk
      by_cases h : key' = key <;> simp_all [lookup]
    · by_cases h : key' = key
      · subst h
        simp_all [lookup]
      · by_cases hk' : key' = k <;> simp_all [lookup]

end Entries

variable {κ : Type u} {α : Type v} [Ord κ] [DecidableEq κ] [Std.TransOrd κ] [Std.LawfulEqOrd κ]

private theorem lookup_place (key key' : κ) (value : α) (l : List (κ × α)) :
    lookup key' (place key value l) = if key' = key then some value else lookup key' l := by
  induction l with
  | nil => simp [place, lookup]
  | cons head rest ih =>
    obtain ⟨k, a⟩ := head
    unfold place
    split
    · simp [lookup]
    · rename_i heq
      obtain rfl := Std.LawfulEqCmp.eq_of_compare heq
      by_cases h : key' = key <;> simp [lookup, h]
    · rename_i hgt
      have hne : key ≠ k := by
        rintro rfl
        simp at hgt
      by_cases h : key' = key
      · subst h
        simp [lookup, ih, hne]
      · by_cases hk' : key' = k <;> simp [lookup, ih, h, hk', Ne.symm hne]

@[simp]
theorem get?_insert (m : Keyed κ α) (key key' : κ) (value : α) :
    (m.insert key value).get? key' = if key' = key then some value else m.get? key' :=
  lookup_place key key' value m.entries

private theorem lookup_of_mem {key : κ} {value : α} {l : List (κ × α)}
    (hl : l.Pairwise fun a b => compare a.1 b.1 = .lt) (h : (key, value) ∈ l) :
    lookup key l = some value := by
  induction l with
  | nil => simp at h
  | cons head rest ih =>
    obtain ⟨k, a⟩ := head
    obtain ⟨hrest, hpair⟩ := List.pairwise_cons.mp hl
    rcases List.mem_cons.mp h with heq | hmem
    · obtain ⟨rfl, rfl⟩ := Prod.mk.inj heq
      simp [lookup]
    · have hne : key ≠ k := by
        rintro rfl
        have hlt := hrest _ hmem
        simp at hlt
      simp [lookup, hne, ih hpair hmem]

/-- The entries are exactly the look-ups that succeed. -/
theorem mem_entries_iff {m : Keyed κ α} {key : κ} {value : α} :
    (key, value) ∈ m.entries ↔ m.get? key = some value :=
  ⟨lookup_of_mem m.ascending, mem_entries_of_lookup⟩

theorem mem_keys_iff {m : Keyed κ α} {key : κ} : key ∈ m.keys ↔ (m.get? key).isSome := by
  simp only [keys, List.mem_map, Option.isSome_iff_exists, ← mem_entries_iff]
  constructor
  · rintro ⟨⟨k, a⟩, h, rfl⟩
    exact ⟨a, h⟩
  · rintro ⟨a, h⟩
    exact ⟨(key, a), h, rfl⟩

theorem mem_values_iff {m : Keyed κ α} {value : α} :
    value ∈ m.values ↔ ∃ key, m.get? key = some value := by
  simp only [values, List.mem_map, ← mem_entries_iff]
  constructor
  · rintro ⟨⟨k, a⟩, h, rfl⟩
    exact ⟨k, h⟩
  · rintro ⟨k, h⟩
    exact ⟨(k, value), h, rfl⟩

private theorem lookup_tail_eq_none {key : κ} {rest : List (κ × α)}
    (h : ∀ e ∈ rest, compare key e.1 = .lt) : lookup key rest = none := by
  apply lookup_eq_none_of_forall_ne
  intro e he heq
  have hlt := h e he
  rw [heq] at hlt
  simp at hlt

/-- The first entry of an ascending list is the one that no look-up of the rest can answer. -/
private theorem entries_eq_of_lookup_eq {l l' : List (κ × α)}
    (hl : l.Pairwise fun a b => compare a.1 b.1 = .lt)
    (hl' : l'.Pairwise fun a b => compare a.1 b.1 = .lt)
    (h : ∀ key, lookup key l = lookup key l') : l = l' := by
  induction l generalizing l' with
  | nil =>
    cases l' with
    | nil => rfl
    | cons head' rest' =>
      have := h head'.1
      simp [lookup] at this
  | cons head rest ih =>
    cases l' with
    | nil =>
      have := h head.1
      simp [lookup] at this
    | cons head' rest' =>
      obtain ⟨k, a⟩ := head
      obtain ⟨k', a'⟩ := head'
      obtain ⟨hrest, hpair⟩ := List.pairwise_cons.mp hl
      obtain ⟨hrest', hpair'⟩ := List.pairwise_cons.mp hl'
      have hkk : k = k' := by
        have hmem : (k, a) ∈ (k', a') :: rest' := by
          apply mem_entries_of_lookup
          rw [← h k]
          simp [lookup]
        have hmem' : (k', a') ∈ (k, a) :: rest := by
          apply mem_entries_of_lookup
          rw [h k']
          simp [lookup]
        rcases List.mem_cons.mp hmem with heq | hmem
        · exact (Prod.mk.inj heq).1
        rcases List.mem_cons.mp hmem' with heq | hmem'
        · exact (Prod.mk.inj heq).1.symm
        have hlt : compare k' k = .lt := hrest' _ hmem
        have hgt : compare k k' = .lt := hrest _ hmem'
        have := Std.TransCmp.lt_trans hlt hgt
        simp at this
      subst hkk
      have haa : a = a' := by
        have := h k
        simpa [lookup] using this
      subst haa
      have htail : ∀ key, lookup key rest = lookup key rest' := by
        intro key
        by_cases hk : key = k
        · subst hk
          rw [lookup_tail_eq_none hrest, lookup_tail_eq_none hrest']
        · have := h key
          simpa [lookup, hk] using this
      rw [ih hpair hpair' htail]

/-- Two keyed lists with the same look-ups are equal. -/
@[ext]
theorem ext_get? {m m' : Keyed κ α} (h : ∀ key, m.get? key = m'.get? key) : m = m' := by
  obtain ⟨entries, ascending⟩ := m
  obtain ⟨entries', ascending'⟩ := m'
  obtain rfl := entries_eq_of_lookup_eq ascending ascending' h
  rfl

private theorem lookup_append_single (key : κ) (l : List (κ × α)) (last : κ × α) :
    lookup key (l ++ [last]) = (lookup key l <|> if key = last.1 then some last.2 else none) := by
  induction l with
  | nil => simp [lookup]
  | cons e rest ih =>
    by_cases h : key = e.1 <;> simp [lookup, h, ih]

private theorem get?_foldl_insert (l : List (κ × α)) (m : Keyed κ α) (key : κ) :
    (l.foldl (fun m e => m.insert e.1 e.2) m).get? key = (lookup key l.reverse <|> m.get? key) := by
  induction l generalizing m with
  | nil => simp [lookup]
  | cons head rest ih =>
    rw [List.foldl_cons, ih, List.reverse_cons, lookup_append_single, get?_insert]
    cases hr : lookup key rest.reverse <;> by_cases h : key = head.1 <;> simp [h]

/-- The look-ups of a map made from a list are those of the list read from its end. -/
theorem get?_ofList (l : List (κ × α)) (key : κ) : (ofList l).get? key = lookup key l.reverse := by
  rw [ofList, get?_foldl_insert]
  simp

/-- The distinct keys are the members of the list. -/
theorem mem_distinct {l : List κ} {key : κ} : key ∈ distinct l ↔ key ∈ l := by
  rw [distinct, mem_keys_iff, get?_ofList, ← List.map_reverse, ← List.mem_reverse]
  induction l.reverse with
  | nil => simp [lookup]
  | cons head rest ih =>
    by_cases h : key = head <;> simp [lookup, h, ih]

/-- The distinct keys are in strictly ascending order. -/
theorem distinct_ascending (l : List κ) : (distinct l).Pairwise fun a b => compare a b = .lt :=
  keys_ascending _

private theorem getD_get?_foldl_insert (l : List κ) (counts : Keyed κ Nat) (key : κ) :
    ((l.foldl (fun counts key => counts.insert key ((counts.get? key).getD 0 + 1)) counts).get? key).getD 0 =
      (counts.get? key).getD 0 + l.count key := by
  induction l generalizing counts with
  | nil => rfl
  | cons head rest ih =>
    rw [List.foldl_cons, ih, get?_insert, List.count_cons]
    by_cases h : key = head
    · subst h
      simp only [if_true, Option.getD_some, BEq.rfl]
      omega
    · have hne : (head == key) = false := beq_eq_false_iff_ne.mpr (Ne.symm h)
      simp only [h, hne, if_false, Bool.false_eq_true, Nat.add_zero]

/-- A tally counts the occurrences of every key, also of a key that is not listed. -/
theorem getD_get?_tally (l : List κ) (key : κ) : ((tally l).get? key).getD 0 = l.count key := by
  rw [tally, getD_get?_foldl_insert, get?_empty, Option.getD_none, Nat.zero_add]

end Keyed
end RecordDirectory
