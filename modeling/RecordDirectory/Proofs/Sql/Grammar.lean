import RecordDirectory.Proofs.Sql.Scanner
import RecordDirectory.Sql.Expr

namespace RecordDirectory
namespace Sql

/-!
# Reading expressions by precedence

A reader of SQL expressions that takes one lexeme after the other.  From the loosest to the tightest the
operators are OR, AND, the comparisons, and those that take a member of a JSON object.  All associate to
the left except the comparisons, which do not associate at all.

Within one pair of brackets, at most one left operand can wait at each level.  An operator takes what has
been read at the tighter levels and at its own as its left operand, and a bracket or a comma closes all
of them.  A name directly in front of a bracket is that of a function, and a star in the place of an operand
stands for all columns.

The reader has to be told apart from the printer: it does not know that conditions are put in brackets,
and would read them by precedence if they were not (the examples at the end).
-/

/-- The operands that wait for what stands on the right of their operators. -/
structure Pending where
  disjunct : Option Expr
  conjunct : Option Expr
  compared : Option (BinaryOp × Expr)
  member : Option (BinaryOp × Expr)
deriving Inhabited

namespace Pending

def nothing : Pending := ⟨none, none, none, none⟩

def isNothing (pending : Pending) : Bool :=
  pending.disjunct.isNone && pending.conjunct.isNone && pending.compared.isNone && pending.member.isNone

/-- The expression that a last operand completes, as far as operators on members go. -/
def closeMember (pending : Pending) (last : Expr) : Expr :=
  match pending.member with
  | some (op, left) => .binary op left last
  | none => last

def closeCompared (pending : Pending) (last : Expr) : Expr :=
  match pending.compared with
  | some (op, left) => .binary op left (pending.closeMember last)
  | none => pending.closeMember last

def closeConjunct (pending : Pending) (last : Expr) : Expr :=
  match pending.conjunct with
  | some left => .joined .conjunction [left, pending.closeCompared last]
  | none => pending.closeCompared last

/-- The expression that a last operand completes. -/
def close (pending : Pending) (last : Expr) : Expr :=
  match pending.disjunct with
  | some left => .joined .disjunction [left, pending.closeConjunct last]
  | none => pending.closeConjunct last

/-- What waits when a connective has been read behind an operand. -/
def connect (pending : Pending) (last : Expr) : Connective → Pending
  | .conjunction => { nothing with disjunct := pending.disjunct, conjunct := some (pending.closeConjunct last) }
  | .disjunction => { nothing with disjunct := some (pending.close last) }

/-- What waits when an operator has been read behind an operand. -/
def operate? (pending : Pending) (last : Expr) : BinaryOp → Option Pending
  | .equal =>
    if pending.compared.isSome then none
    else some { pending with compared := some (.equal, pending.closeMember last), member := none }
  | .greater =>
    if pending.compared.isSome then none
    else some { pending with compared := some (.greater, pending.closeMember last), member := none }
  | .member => some { pending with member := some (.member, pending.closeMember last) }
  | .memberText => some { pending with member := some (.memberText, pending.closeMember last) }

end Pending

/-- The operand that has been read last. -/
inductive Operand where
  | missing
  /-- A name, which turns out to be that of a function if a bracket follows. -/
  | name (s : String)
  | complete (expr : Expr)

/-- The expression of an operand, if there is one. -/
def Operand.expr? : Operand → Option Expr
  | missing => none
  | name s => some (.column s)
  | complete expr => some expr

/-- What an opening bracket has opened. -/
inductive Bracket where
  | group
  | arguments (function : String) (earlier : List Expr)

/-- What has been read: the open brackets from the inside out, each with what waits outside of it. -/
structure Reader where
  brackets : List (Bracket × Pending)
  pending : Pending
  operand : Operand

def BinaryOp.ofSign? (s : String) : Option BinaryOp :=
  if s = "=" then some .equal
  else if s = ">" then some .greater
  else if s = "->" then some .member
  else if s = "->>" then some .memberText
  else none

namespace Reader

def start : Reader := ⟨[], .nothing, .missing⟩

/-- Takes an operand where one is missing. -/
def supply? (reader : Reader) (operand : Operand) : Option Reader :=
  match reader.operand with
  | .missing => some { reader with operand := operand }
  | _ => none

def connect? (reader : Reader) (connective : Connective) : Option Reader := do
  let last ← reader.operand.expr?
  some { reader with pending := reader.pending.connect last connective, operand := .missing }

def operate? (reader : Reader) (op : BinaryOp) : Option Reader := do
  let last ← reader.operand.expr?
  let pending ← reader.pending.operate? last op
  some { reader with pending := pending, operand := .missing }

/-- Takes a word, which is a keyword or a name. -/
def word? (reader : Reader) (s : String) : Option Reader :=
  if s = "and" then reader.connect? .conjunction
  else if s = "or" then reader.connect? .disjunction
  else if s = "true" then reader.supply? (.complete (.truth true))
  else if s = "false" then reader.supply? (.complete (.truth false))
  else reader.supply? (.name s)

def opening? (reader : Reader) : Option Reader :=
  match reader.operand with
  | .missing => some ⟨(.group, reader.pending) :: reader.brackets, .nothing, .missing⟩
  | .name function => some ⟨(.arguments function [], reader.pending) :: reader.brackets, .nothing, .missing⟩
  | .complete _ => none

/-- Takes a comma, which stands between arguments only. -/
def comma? (reader : Reader) : Option Reader := do
  let last ← reader.operand.expr?
  match reader.brackets with
  | (.arguments function earlier, outside) :: rest =>
    let argument := reader.pending.close last
    some ⟨(.arguments function (earlier ++ [argument]), outside) :: rest, .nothing, .missing⟩
  | _ => none

/-- Takes a closing bracket.  Between the brackets of a function there may be no argument at all. -/
def closing? (reader : Reader) : Option Reader :=
  match reader.brackets, reader.operand.expr? with
  | (.group, outside) :: rest, some last => some ⟨rest, outside, .complete (reader.pending.close last)⟩
  | (.arguments function earlier, outside) :: rest, some last =>
    some ⟨rest, outside, .complete (.call function (earlier ++ [reader.pending.close last]))⟩
  | (.arguments function [], outside) :: rest, none =>
    if reader.pending.isNothing then some ⟨rest, outside, .complete (.call function [])⟩ else none
  | _, _ => none

def sign? (reader : Reader) (s : String) : Option Reader :=
  match BinaryOp.ofSign? s with
  | some op => reader.operate? op
  | none => if s = "*" then reader.supply? (.complete (.column "*")) else none

def step? (reader : Reader) : Lexeme → Option Reader
  | .word s => reader.word? s
  | .placeholder n => reader.supply? (.complete (.placeholder n))
  | .text s => reader.supply? (.complete (.text s))
  | .number n => reader.supply? (.complete (.number n))
  | .sign s => reader.sign? s
  | .opening => reader.opening?
  | .closing => reader.closing?
  | .comma => reader.comma?

def steps? (reader : Reader) : List Lexeme → Option Reader
  | [] => some reader
  | lexeme :: rest => (reader.step? lexeme).bind fun next => next.steps? rest

/-- The expression that has been read, if it can end here. -/
def finish? (reader : Reader) : Option Expr :=
  match reader.brackets with
  | [] => reader.operand.expr?.map reader.pending.close
  | _ :: _ => none

theorem steps?_append (reader : Reader) (first rest : List Lexeme) :
    reader.steps? (first ++ rest) = (reader.steps? first).bind fun next => next.steps? rest := by
  induction first generalizing reader with
  | nil => rfl
  | cons lexeme later inductionHypothesis =>
      simp only [List.cons_append, steps?]
      cases reader.step? lexeme with
      | none => rfl
      | some next => exact inductionHypothesis next

end Reader

/-- The expression that lexemes make up. -/
def Expr.ofLexemes? (lexemes : List Lexeme) : Option Expr :=
  (Reader.start.steps? lexemes).bind Reader.finish?

def Expr.read? (text : String) : Option Expr :=
  (Scanner.scan? .between text.toList).bind Expr.ofLexemes?

example : Expr.read? "a = 1 OR b = 2 AND c" =
    some (.joined .disjunction [.binary .equal (.column "a") (.number 1),
      .joined .conjunction [.binary .equal (.column "b") (.number 2), .column "c"]]) := by
  rfl

end Sql
end RecordDirectory
