/-!
Identities of directories and records.

Both are whole numbers that a store hands out; they are kept as two types, so that the id of a record
is never taken for that of a directory. Each is ordered by its number.
-/

namespace RecordDirectory

/-- The identity of a directory. -/
structure DirectoryId where
  number : Int
deriving DecidableEq, Inhabited

/-- The identity of a record. -/
structure RecordId where
  number : Int
deriving DecidableEq, Inhabited

namespace DirectoryId

instance : Ord DirectoryId := ⟨fun a b => compare a.number b.number⟩

theorem compare_def (a b : DirectoryId) : compare a b = compare a.number b.number := rfl

instance : Std.TransOrd DirectoryId where
  eq_swap := (inferInstance : Std.TransOrd Int).eq_swap
  isLE_trans := (inferInstance : Std.TransOrd Int).isLE_trans

instance : Std.LawfulEqOrd DirectoryId where
  compare_self := (inferInstance : Std.LawfulEqOrd Int).compare_self
  eq_of_compare {a b} h := by
    cases a
    cases b
    exact congrArg DirectoryId.mk ((inferInstance : Std.LawfulEqOrd Int).eq_of_compare h)

end DirectoryId

namespace RecordId

instance : Ord RecordId := ⟨fun a b => compare a.number b.number⟩

theorem compare_def (a b : RecordId) : compare a b = compare a.number b.number := rfl

instance : Std.TransOrd RecordId where
  eq_swap := (inferInstance : Std.TransOrd Int).eq_swap
  isLE_trans := (inferInstance : Std.TransOrd Int).isLE_trans

instance : Std.LawfulEqOrd RecordId where
  compare_self := (inferInstance : Std.LawfulEqOrd Int).compare_self
  eq_of_compare {a b} h := by
    cases a
    cases b
    exact congrArg RecordId.mk ((inferInstance : Std.LawfulEqOrd Int).eq_of_compare h)

end RecordId

end RecordDirectory
