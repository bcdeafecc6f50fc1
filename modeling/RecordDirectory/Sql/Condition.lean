import RecordDirectory.Predicate
import RecordDirectory.Sql.Statement

/-!
Predicates as conditions on rows.

Ids, field names and needles never enter the text of a condition: each has a placeholder, and the
placeholders are counted from left to right in the order of the parameters.
-/

namespace RecordDirectory
namespace Predicate

open Sql

mutual

/-- The parameters of a predicate, from left to right. -/
def parameters : Predicate → List Parameter
  | .always => []
  | .directoryIs id => [.integer id.number]
  | .contains field needle => [.text field, .text needle]
  | .all parts => parametersOfAll parts
  | .any parts => parametersOfAll parts

def parametersOfAll : List Predicate → List Parameter
  | [] => []
  | part :: rest => parameters part ++ parametersOfAll rest

end

/-- The text of the field that a placeholder names, in lower case and empty where it is missing. -/
def fieldText (field : Nat) : Expr :=
  let value := Expr.binary .memberText (.binary .member (.column "field_values") (.placeholder field))
    (.text "value")
  .call "lower" [.call "coalesce" [value, .text ""]]

/-- The parts of a condition joined, or a truth value where there are none. -/
def join (connective : Connective) (parts : List Expr) : Expr :=
  match parts with
  | [] => .truth (connective == .conjunction)
  | parts => .joined connective parts

mutual

/-- The condition of a predicate, with placeholders from `next` on. -/
def condition (next : Nat) : Predicate → Expr
  | .always => .truth true
  | .directoryIs _ => .binary .equal (.column "directory_id") (.placeholder next)
  | .contains _ _ =>
    .binary .greater (.call "strpos" [fieldText next, .placeholder (next + 1)]) (.number 0)
  | .all parts => join .conjunction (conditions next parts)
  | .any parts => join .disjunction (conditions next parts)

/-- The conditions of several predicates, with placeholders from `next` on. -/
def conditions (next : Nat) : List Predicate → List Expr
  | [] => []
  | part :: rest => condition next part :: conditions (next + (parameters part).length) rest

end

end Predicate
end RecordDirectory
