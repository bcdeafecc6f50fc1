import RecordDirectory.Keyed
import RecordDirectory.Sql.Statement
import RecordDirectory.Text.Occurrence

namespace RecordDirectory
namespace Sql

/-!
# The meaning of expressions

What an expression has as its value on a row, in the logic of three values: NULL is unknown, and a
comparison with it is unknown, too.  An expression of mixed types has no value at all, and neither has
one that names an unknown column, function or placeholder.  The names of functions are known whatever
their case.

The folding of case depends on the collation of a database, so it is part of the environment.  The text
of a JSON member is defined for strings, whole numbers, truth values and null, since others are not
stored by this library.
-/

inductive Datum where
  | null
  | truth (b : Bool)
  | integer (n : Int)
  | integers (ns : List Int)
  | text (s : String)
  | json (value : Json)
  | code (code : DirectoryCode)
  | moment (n : Nat)
deriving DecidableEq, Inhabited

def Parameter.datum : Parameter → Datum
  | integer n => .integer n
  | integers ns => .integers ns
  | text s => .text s
  | json value => .json value
  | code c => .code c

/-- What an expression depends on besides itself. -/
structure Environment where
  lower : String → String
  now : Nat
  column? : String → Option Datum
  parameters : List Parameter

def Environment.placeholder? (environment : Environment) : Nat → Option Datum
  | 0 => none
  | n + 1 => environment.parameters[n]?.map Parameter.datum

/-- The place of the first occurrence, counted from one; zero where there is none. -/
def position (needle : List Char) : List Char → Nat
  | [] => if needle.isEmpty then 1 else 0
  | c :: rest =>
    if needle.isPrefixOf (c :: rest) then 1
    else
      match position needle rest with
      | 0 => 0
      | n + 1 => n + 2

theorem position_pos_iff {needle text : List Char} :
    0 < position needle text ↔ Text.occursIn needle text = true := by
  induction text with
  | nil => cases needle <;> simp [position, Text.occursIn]
  | cons c rest inductionHypothesis =>
      rw [position, Text.occursIn, Bool.or_eq_true, ← inductionHypothesis]
      split
      · next found => simp [found]
      · next absent => split <;> simp_all

/-- The member of an object; what is no object has none. -/
def jsonMember? (value : Json) (name : String) : Option Json :=
  value.object?.bind (Keyed.lookup name)

/-- The text of a JSON value that is given as text. -/
def jsonText? : Json → Option Datum
  | .null => some .null
  | .bool true => some (.text "true")
  | .bool false => some (.text "false")
  | .integer n => some (.text (Numeral.text n))
  | .string s => some (.text s)
  | .float _ | .array _ | .object _ => none

def BinaryOp.compute? : BinaryOp → Datum → Datum → Option Datum
  | _, .null, _ | _, _, .null => some .null
  | .equal, .integer a, .integer b => some (.truth (a == b))
  | .equal, .integer a, .integers bs => some (.truth (bs.contains a))
  | .greater, .integer a, .integer b => some (.truth (decide (b < a)))
  | .member, .json value, .text name => some ((jsonMember? value name).elim .null .json)
  | .memberText, .json value, .text name => (jsonMember? value name).elim (some .null) jsonText?
  | _, _, _ => none

/-- The value of a connective in the logic of three values. -/
def Connective.compute? : Connective → Datum → Datum → Option Datum
  | .conjunction, .truth a, .truth b => some (.truth (a && b))
  | .conjunction, .truth a, .null | .conjunction, .null, .truth a =>
    some (if a then .null else .truth false)
  | .disjunction, .truth a, .truth b => some (.truth (a || b))
  | .disjunction, .truth a, .null | .disjunction, .null, .truth a =>
    some (if a then .truth true else .null)
  | _, .null, .null => some .null
  | _, _, _ => none

/-- The first value that is not NULL. -/
def coalesce : List Datum → Datum
  | [] => .null
  | .null :: rest => coalesce rest
  | value :: _ => value

theorem toLower_toLower (c : Char) : c.toLower.toLower = c.toLower := by
  by_cases upper : 'A'.val ≤ c.val ∧ c.val ≤ 'Z'.val
  · have least : 65 ≤ c.toNat := upper.1
    have greatest : c.toNat ≤ 90 := upper.2
    have each : ∀ n < 91, 65 ≤ n → (Char.ofNat n).toLower.toLower = (Char.ofNat n).toLower := by decide
    rw [← Char.ofNat_toNat c]
    exact each c.toNat (Nat.lt_succ_of_le greatest) least
  · have same : c.toLower = c := dif_neg upper
    rw [same, same]

/-- A name in lower case. -/
def caseless (name : String) : String :=
  String.ofList (name.toList.map Char.toLower)

theorem caseless_caseless (name : String) : caseless (caseless name) = caseless name := by
  have same : Char.toLower ∘ Char.toLower = Char.toLower := funext toLower_toLower
  rw [caseless, caseless, String.toList_ofList, List.map_map, same]

/-- The value of a function whose name is in lower case. -/
def valueOf? (environment : Environment) (name : String) (arguments : List Datum) : Option Datum :=
  if name = "coalesce" then some (coalesce arguments)
  else
    match name, arguments with
    | "lower", [.text s] => some (.text (environment.lower s))
    | "strpos", [.text text, .text needle] => some (.integer (position needle.toList text.toList))
    | "any", [.integers ns] => some (.integers ns)
    | "now", [] => some (.moment environment.now)
    | "lower", [.null] | "strpos", [.null, _] | "strpos", [_, .null] => some .null
    | _, _ => none

def functionValue? (environment : Environment) (function : String) (arguments : List Datum) : Option Datum :=
  valueOf? environment (caseless function) arguments

theorem functionValue?_caseless (environment : Environment) (function : String) :
    functionValue? environment (caseless function) = functionValue? environment function := by
  funext arguments
  rw [functionValue?, functionValue?, caseless_caseless]

namespace Expr

mutual

/-- The value of an expression, if it has one. -/
def eval? (environment : Environment) : Expr → Option Datum
  | column name => environment.column? name
  | placeholder n => environment.placeholder? n
  | text s => some (.text s)
  | number n => some (.integer n)
  | truth b => some (.truth b)
  | call function arguments => (evalAll? environment arguments).bind (functionValue? environment function)
  | binary op left right => do op.compute? (← eval? environment left) (← eval? environment right)
  | joined _ [] => none
  | joined connective (part :: rest) => evalJoined? environment connective (eval? environment part) rest

def evalAll? (environment : Environment) : List Expr → Option (List Datum)
  | [] => some []
  | expr :: rest => do some ((← eval? environment expr) :: (← evalAll? environment rest))

/-- A value joined with further parts, from left to right. -/
def evalJoined? (environment : Environment) (connective : Connective) (first : Option Datum) :
    List Expr → Option Datum
  | [] => first
  | part :: rest =>
    evalJoined? environment connective (do connective.compute? (← first) (← eval? environment part)) rest

end

mutual

/-- The expression with all connectives between two parts, as a grammar without lists gives it, and with the
names of functions in lower case. -/
def nested : Expr → Expr
  | call function arguments => call (caseless function) (nestedAll arguments)
  | binary op left right => binary op left.nested right.nested
  | joined connective [] => joined connective []
  | joined connective (part :: rest) => nestedFrom connective part.nested rest
  | column name => column name
  | placeholder n => placeholder n
  | text s => text s
  | number n => number n
  | truth b => truth b

def nestedAll : List Expr → List Expr
  | [] => []
  | expr :: rest => expr.nested :: nestedAll rest

/-- Parts joined to the right of a first one, two at a time. -/
def nestedFrom (connective : Connective) (first : Expr) : List Expr → Expr
  | [] => first
  | part :: rest => nestedFrom connective (joined connective [first, part.nested]) rest

end

theorem nestedAll_eq_map (exprs : List Expr) : nestedAll exprs = exprs.map nested := by
  induction exprs with
  | nil => rfl
  | cons expr rest inductionHypothesis => rw [nestedAll, inductionHypothesis, List.map_cons]

mutual

/-- What is nested stays as it is. -/
theorem nested_nested (expr : Expr) : expr.nested.nested = expr.nested := by
  cases expr with
  | column | placeholder | text | number | truth => rfl
  | call function arguments =>
      rw [nested, nested, caseless_caseless, nestedAll_nestedAll arguments]
  | binary op left right => rw [nested, nested, nested_nested left, nested_nested right]
  | joined connective parts =>
      cases parts with
      | nil => rfl
      | cons part rest => exact nested_nestedFrom connective (nested_nested part) rest

theorem nestedAll_nestedAll (exprs : List Expr) : nestedAll (nestedAll exprs) = nestedAll exprs := by
  cases exprs with
  | nil => rfl
  | cons expr rest => rw [nestedAll, nestedAll, nested_nested expr, nestedAll_nestedAll rest]

theorem nested_nestedFrom (connective : Connective) {first : Expr} (same : first.nested = first)
    (rest : List Expr) : (nestedFrom connective first rest).nested = nestedFrom connective first rest := by
  cases rest with
  | nil => exact same
  | cons part later =>
      have joinedSame : (joined connective [first, part.nested]).nested = joined connective [first, part.nested] := by
        rw [nested, nestedFrom, nestedFrom, same, nested_nested part]
      exact nested_nestedFrom connective joinedSame later

end

mutual

/-- Nesting changes no value. -/
theorem eval?_nested (environment : Environment) (expr : Expr) :
    expr.nested.eval? environment = expr.eval? environment := by
  cases expr with
  | column | placeholder | text | number | truth => rfl
  | call function arguments =>
      rw [nested, eval?, eval?, evalAll?_nested environment arguments, functionValue?_caseless]
  | binary op left right =>
      rw [nested, eval?, eval?, eval?_nested environment left, eval?_nested environment right]
  | joined connective parts =>
      cases parts with
      | nil => rfl
      | cons part rest =>
          rw [nested, eval?, eval?_nestedFrom environment connective part.nested rest]
          rw [eval?_nested environment part]

theorem evalAll?_nested (environment : Environment) (exprs : List Expr) :
    evalAll? environment (nestedAll exprs) = evalAll? environment exprs := by
  cases exprs with
  | nil => rfl
  | cons expr rest =>
      rw [nestedAll, evalAll?, evalAll?, eval?_nested environment expr, evalAll?_nested environment rest]

theorem eval?_nestedFrom (environment : Environment) (connective : Connective) (first : Expr)
    (rest : List Expr) :
    (nestedFrom connective first rest).eval? environment =
      evalJoined? environment connective (first.eval? environment) rest := by
  cases rest with
  | nil => rfl
  | cons part later =>
      rw [nestedFrom, evalJoined?, eval?_nestedFrom environment connective _ later]
      rw [eval?, evalJoined?, evalJoined?, eval?_nested environment part]

end

end Expr
end Sql
end RecordDirectory
