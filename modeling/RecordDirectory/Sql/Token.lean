import RecordDirectory.Text.Numeral

/-!
SQL texts as lists of tokens.

The tokens decide the text: between two of them stands one blank, except behind an opening bracket and
before a closing one or a comma.
-/

namespace RecordDirectory
namespace Sql

/-- A token. -/
inductive Token where
  /-- A keyword, a name, or a bracket that is set off by blanks. -/
  | word (s : String)
  /-- The name of a function with the bracket that opens its arguments. -/
  | apply (function : String)
  /-- The placeholder of a parameter, counted from one. -/
  | placeholder (n : Nat)
  /-- A text in single quotes. -/
  | quoted (s : String)
  | number (n : Nat)
  /-- An operator. -/
  | sign (s : String)
  | openBracket
  | closeBracket
  | comma
deriving DecidableEq, Inhabited

namespace Token

/-- A quote inside a text is written twice. -/
def quoteChar (c : Char) : List Char :=
  if c = '\x27' then ['\x27', '\x27'] else [c]

def write : Token → List Char
  | word s => s.toList
  | apply function => function.toList ++ ['(']
  | placeholder n => '$' :: Numeral.write n
  | quoted s => '\x27' :: s.toList.flatMap quoteChar ++ ['\x27']
  | number n => Numeral.write n
  | sign s => s.toList
  | openBracket => ['(']
  | closeBracket => [')']
  | comma => [',']

/-- Whether the next token follows at once. -/
def opens : Token → Bool
  | apply _ | openBracket => true
  | _ => false

/-- Whether the token follows at once on the one before. -/
def closes : Token → Bool
  | closeBracket | comma => true
  | _ => false

def writeAll : List Token → List Char
  | [] => []
  | [token] => token.write
  | left :: right :: rest =>
    let gap := if left.opens || right.closes then [] else [' ']
    left.write ++ gap ++ writeAll (right :: rest)

end Token

end Sql
end RecordDirectory
