/-!
Keyed lists: finite maps kept as lists of entries in strictly ascending key order.

The order makes the representation canonical: two keyed lists with the same look-ups are equal
(`Keyed.ext_get?`, with the lemmas on each operation, in `RecordDirectory.Keyed.Lemmas`). This module
holds the operations and the proof that placing an entry keeps the order.
-/

universe u v

namespace RecordDirectory

/-- A finite map from `κ` to `α`; each key occurs once and the keys ascend. -/
structure Keyed (κ : Type u) (α : Type v) [Ord κ] where
  entries : List (κ × α)
  ascending : entries.Pairwise fun a b => compare a.1 b.1 = .lt
deriving DecidableEq

namespace Keyed

variable {κ : Type u} {α : Type v} [Ord κ]

/-- The value of the entry with this key, in a list of entries. -/
def lookup (key : κ) : List (κ × α) → Option α
  | [] => none
  | (k, a) :: rest => if compare key k = .eq then some a else lookup key rest

/-- Puts an entry at its place, in one pass; an entry with the same key is replaced. -/
def place (key : κ) (value : α) : List (κ × α) → List (κ × α)
  | [] => [(key, value)]
  | (k, a) :: rest =>
    match compare key k with
    | .lt => (key, value) :: (k, a) :: rest
    | .eq => (key, value) :: rest
    | .gt => (k, a) :: place key value rest

def get? (m : Keyed κ α) (key : κ) : Option α :=
  lookup key m.entries

def contains (m : Keyed κ α) (key : κ) : Bool :=
  (m.get? key).isSome

/-- The keys, ascending. -/
def keys (m : Keyed κ α) : List κ :=
  m.entries.map Prod.fst

/-- The values, in the order of their keys. -/
def values (m : Keyed κ α) : List α :=
  m.entries.map Prod.snd

def size (m : Keyed κ α) : Nat :=
  m.entries.length

def empty : Keyed κ α where
  entries := []
  ascending := List.Pairwise.nil

instance : Inhabited (Keyed κ α) := ⟨empty⟩

/-- Removes the entry with this key, if there is one. -/
def erase (m : Keyed κ α) (key : κ) : Keyed κ α where
  entries := m.entries.filter fun e => compare key e.1 != .eq
  ascending := m.ascending.sublist List.filter_sublist

def mapValues {β : Type v} (f : α → β) (m : Keyed κ α) : Keyed κ β where
  entries := m.entries.map fun e => (e.1, f e.2)
  ascending := by
    rw [List.pairwise_map]
    exact m.ascending

theorem mem_place {key : κ} {value : α} {e : κ × α} {l : List (κ × α)} (h : e ∈ place key value l) :
    e = (key, value) ∨ e ∈ l := by
  induction l with
  | nil => simpa [place] using h
  | cons head rest ih =>
    obtain ⟨k, a⟩ := head
    unfold place at h
    split at h <;> grind

variable [Std.TransOrd κ]

theorem place_ascending {key : κ} {value : α} {l : List (κ × α)}
    (h : l.Pairwise fun a b => compare a.1 b.1 = .lt) :
    (place key value l).Pairwise fun a b => compare a.1 b.1 = .lt := by
  induction l with
  | nil => simp [place]
  | cons head rest ih =>
    obtain ⟨k, a⟩ := head
    obtain ⟨hrest, hpair⟩ := List.pairwise_cons.mp h
    unfold place
    split
    · rename_i hlt
      refine List.pairwise_cons.mpr ⟨fun e he => ?_, h⟩
      rcases List.mem_cons.mp he with rfl | he
      · exact hlt
      · exact Std.TransCmp.lt_trans hlt (hrest e he)
    · rename_i heq
      refine List.pairwise_cons.mpr ⟨fun e he => ?_, hpair⟩
      exact Std.TransCmp.lt_of_eq_of_lt heq (hrest e he)
    · rename_i hgt
      refine List.pairwise_cons.mpr ⟨fun e he => ?_, ih hpair⟩
      rcases mem_place he with rfl | he
      · exact Std.OrientedCmp.lt_of_gt hgt
      · exact hrest e he

/-- Stores a value under a key; an earlier value of the key is replaced. -/
def insert (m : Keyed κ α) (key : κ) (value : α) : Keyed κ α where
  entries := place key value m.entries
  ascending := place_ascending m.ascending

/-- The map of a list of entries; of several entries with one key the last counts. -/
def ofList (l : List (κ × α)) : Keyed κ α :=
  l.foldl (fun m e => m.insert e.1 e.2) empty

/-- The distinct keys of a list, ascending. -/
def distinct (l : List κ) : List κ :=
  (ofList (l.map fun k => (k, ()))).keys

/-- How often each key of a list occurs in it, counted in one pass. -/
def tally (l : List κ) : Keyed κ Nat :=
  l.foldl (fun counts key => counts.insert key ((counts.get? key).getD 0 + 1)) empty

end Keyed

end RecordDirectory
