import RecordDirectory.Proofs.Predicate.Search

namespace RecordDirectory
namespace Predicate

/-!
# Conjunctions as lists of parts

Conjunction has five ways to put two predicates together, by what they look like.  They are one way: a predicate
gives its conjuncts, which are none, its parts, or itself, and a conjunction has those of the first predicate and
then those of the second (`conjuncts_and`).  From this it follows that brackets do not matter, also where a
conjunction without parts is among the operands.  Such a conjunction holds of every record, as `always` does, but
it is another tree and it is not dropped.

`Bracketing` is any way to put a list of predicates into pairs.  All of them give the tree that is had by
conjoining the predicates from the left.
-/

/-- The predicates that a predicate adds to a conjunction. -/
def conjuncts : Predicate → List Predicate
  | .always => []
  | .all parts => parts
  | p => [p]

def isConjunction : Predicate → Bool
  | .all _ => true
  | _ => false

/-- Whether no conjunction is directly among the parts of a conjunction. -/
def isFlat : Predicate → Bool
  | .all parts => parts.all fun part => !part.isConjunction
  | _ => true

/-! ## Conjunction by its operands -/

@[simp]
theorem always_and (p : Predicate) : always.and p = p := by
  rw [Predicate.and]

@[simp]
theorem and_always (p : Predicate) : p.and always = p := by
  cases p <;> rfl

/-- Predicates that do not hold trivially give a conjunction of all their conjuncts. -/
theorem and_eq_all {p q : Predicate} (first : p ≠ always) (second : q ≠ always) :
    p.and q = all (p.conjuncts ++ q.conjuncts) := by
  cases p with
  | always => exact absurd rfl first
  | directoryIs | contains | all | any =>
      cases q with
      | always => exact absurd rfl second
      | directoryIs | contains | all | any => rfl

theorem all_ne_always (parts : List Predicate) : all parts ≠ always :=
  Predicate.noConfusion

theorem conjuncts_and (p q : Predicate) : (p.and q).conjuncts = p.conjuncts ++ q.conjuncts := by
  by_cases first : p = always
  · rw [first, always_and, conjuncts, List.nil_append]
  · by_cases second : q = always
    · rw [second, and_always, conjuncts, List.append_nil]
    · rw [and_eq_all first second, conjuncts]

/-- The order in which three predicates are conjoined does not show in the tree. -/
theorem and_assoc (p q s : Predicate) : (p.and q).and s = p.and (q.and s) := by
  by_cases first : p = always
  · rw [first, always_and, always_and]
  · by_cases second : q = always
    · rw [second, and_always, always_and]
    · by_cases third : s = always
      · rw [third, and_always, and_always]
      · have joined : p.and q ≠ always := and_eq_all first second ▸ all_ne_always _
        have joined' : q.and s ≠ always := and_eq_all second third ▸ all_ne_always _
        rw [and_eq_all joined third, and_eq_all first joined', conjuncts_and, conjuncts_and, List.append_assoc]

instance : Std.Associative Predicate.and := ⟨and_assoc⟩

instance : Std.LawfulIdentity Predicate.and always where
  left_id := always_and
  right_id := and_always

theorem isFlat_eq (p : Predicate) : p.isFlat = p.conjuncts.all fun part => !part.isConjunction := by
  cases p <;> rfl

/-- A conjunction is flat where both of its operands are. -/
theorem isFlat_and (p q : Predicate) : (p.and q).isFlat = (p.isFlat && q.isFlat) := by
  simp only [isFlat_eq, conjuncts_and, List.all_append]

/-! ## Conjunctions of many predicates -/

/-- Predicates in a row, with brackets around any two neighbours until one is left. -/
inductive Bracketing where
  | nothing
  | single (p : Predicate)
  | pair (left right : Bracketing)

namespace Bracketing

/-- The predicates without their brackets. -/
def operands : Bracketing → List Predicate
  | nothing => []
  | single p => [p]
  | pair left right => left.operands ++ right.operands

/-- The conjunction of the predicates, as the brackets say. -/
def conjoined : Bracketing → Predicate
  | nothing => .always
  | single p => p
  | pair left right => left.conjoined.and right.conjoined

end Bracketing

theorem conjoin_append (first : Predicate) (ps qs : List Predicate) :
    first.conjoin (ps ++ qs) = (first.conjoin ps).and (always.conjoin qs) :=
  calc first.conjoin (ps ++ qs)
      = qs.foldl Predicate.and ((first.conjoin ps).and always) := by
        rw [and_always, conjoin, conjoin, List.foldl_append]
    _ = (first.conjoin ps).and (always.conjoin qs) := List.foldl_assoc

/-- Whatever the brackets, the tree is that of conjoining the operands from the left. -/
theorem Bracketing.conjoined_eq (bracketing : Bracketing) :
    bracketing.conjoined = always.conjoin bracketing.operands := by
  induction bracketing with
  | nothing => rfl
  | single p => exact (always_and p).symm
  | pair left right leftEq rightEq => rw [conjoined, operands, conjoin_append, leftEq, rightEq]

/-- Conjunction means that both operands hold.  As equalities of trees, it is associative and has `always` as its
unit, it nests a conjunction only where an operand does, and the brackets around any number of operands do not
matter. -/
theorem conjunction_laws (p q s : Predicate) (record : Record) (bracketing : Bracketing) :
    (p.and q).holds record = (p.holds record && q.holds record) ∧
      (p.and q).and s = p.and (q.and s) ∧
      always.and p = p ∧ p.and always = p ∧
      (p.and q).isFlat = (p.isFlat && q.isFlat) ∧
      bracketing.conjoined = always.conjoin bracketing.operands :=
  ⟨holds_and record p q, and_assoc p q s, always_and p, and_always p, isFlat_and p q, bracketing.conjoined_eq⟩

/-- A conjunction without parts is not dropped, but one with parts is taken apart, wherever it stands. -/
example (p q s : Predicate) :
    (Bracketing.pair (.single (all [])) (.pair (.single (all [p, q])) (.single (any [s])))).conjoined =
      all [p, q, any [s]] :=
  rfl

end Predicate
end RecordDirectory
