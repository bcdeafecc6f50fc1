import RecordDirectory.Sql.Token

/-!
SQL expressions over the columns of a table.

A conjunction or disjunction stands in brackets, whatever is around it, so no precedence is needed to
read it; the other operators are used only where they associate to the left.
-/

namespace RecordDirectory
namespace Sql

/-- The operators between two expressions. -/
inductive BinaryOp where
  | equal
  | greater
  /-- The member of a JSON object, as JSON. -/
  | member
  /-- The member of a JSON object, as text. -/
  | memberText
deriving DecidableEq, Inhabited

def BinaryOp.sign : BinaryOp → String
  | equal => "="
  | greater => ">"
  | member => "->"
  | memberText => "->>"

/-- What joins the parts of a condition. -/
inductive Connective where
  | conjunction
  | disjunction
deriving DecidableEq, Inhabited

def Connective.keyword : Connective → String
  | conjunction => "AND"
  | disjunction => "OR"

/-- An expression. -/
inductive Expr where
  | column (name : String)
  | placeholder (n : Nat)
  | text (s : String)
  | number (n : Nat)
  | truth (b : Bool)
  | call (function : String) (arguments : List Expr)
  | binary (op : BinaryOp) (left right : Expr)
  | joined (connective : Connective) (parts : List Expr)
deriving Inhabited

namespace Expr

mutual

def tokens : Expr → List Token
  | column name => [.word name]
  | placeholder n => [.placeholder n]
  | text s => [.quoted s]
  | number n => [.number n]
  | truth true => [.word "TRUE"]
  | truth false => [.word "FALSE"]
  | call function arguments => .apply function :: argumentTokens arguments ++ [.closeBracket]
  | binary op left right => tokens left ++ .sign op.sign :: tokens right
  | joined connective parts => .openBracket :: partTokens connective parts ++ [.closeBracket]

def argumentTokens : List Expr → List Token
  | [] => []
  | [argument] => tokens argument
  | argument :: rest => tokens argument ++ .comma :: argumentTokens rest

def partTokens (connective : Connective) : List Expr → List Token
  | [] => []
  | [part] => tokens part
  | part :: rest => tokens part ++ .word connective.keyword :: partTokens connective rest

end

end Expr

end Sql
end RecordDirectory
