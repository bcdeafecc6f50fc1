import RecordDirectory.Record
import RecordDirectory.Text.Lowercase
import RecordDirectory.Text.Occurrence

/-!
Predicates on records.

Conjunction keeps predicates flat: it drops what always holds and joins the parts of conjunctions. The
meaning of a predicate is `holds`.
-/

namespace RecordDirectory

/-- A filter over records. -/
inductive Predicate where
  /-- Every record. -/
  | always
  /-- The records of a directory. -/
  | directoryIs (id : DirectoryId)
  /-- The records in which the folded text of a field holds a needle. -/
  | contains (field needle : String)
  /-- The records that all parts hold of. -/
  | all (parts : List Predicate)
  /-- The records that some part holds of. -/
  | any (parts : List Predicate)
deriving Inhabited

namespace Predicate

def and : Predicate → Predicate → Predicate
  | .always, q => q
  | p, .always => p
  | .all ps, .all qs => .all (ps ++ qs)
  | .all ps, q => .all (ps ++ [q])
  | p, .all qs => .all (p :: qs)
  | p, q => .all [p, q]

/-- The conjunction of several predicates, taken from the left. -/
def conjoin (first : Predicate) (rest : List Predicate) : Predicate :=
  rest.foldl and first

mutual

def holds (record : Record) : Predicate → Bool
  | .always => true
  | .directoryIs id => record.directory == id
  | .contains field needle => Text.contains (Text.foldCase (record.project field)) needle
  | .all parts => holdsAll record parts
  | .any parts => holdsAny record parts

/-- Whether all of several predicates hold. -/
def holdsAll (record : Record) : List Predicate → Bool
  | [] => true
  | part :: rest => holds record part && holdsAll record rest

/-- Whether one of several predicates holds. -/
def holdsAny (record : Record) : List Predicate → Bool
  | [] => false
  | part :: rest => holds record part || holdsAny record rest

end

theorem holdsAll_eq (record : Record) (parts : List Predicate) :
    holdsAll record parts = parts.all (holds record) := by
  induction parts with
  | nil => rfl
  | cons part rest ih => simp [holdsAll, ih]

theorem holdsAny_eq (record : Record) (parts : List Predicate) :
    holdsAny record parts = parts.any (holds record) := by
  induction parts with
  | nil => rfl
  | cons part rest ih => simp [holdsAny, ih]

end Predicate

end RecordDirectory
