import RecordDirectory.Yaml.Node

/-!
YAML documents.

A text holds at most one document. It may start at once, or behind directives and a mark; behind it only
marks of its end may stand.
-/

namespace RecordDirectory
namespace Yaml

/-- What a text holds. -/
inductive Document where
  /-- Nothing but blanks and comments. -/
  | empty
  | root (node : Node)
deriving Inhabited

namespace Document

/-- The directives before a document and the tokens behind them. -/
def splitDirectives : List Token → List Directive × List Token
  | .directive directive :: rest =>
    let (directives, rest) := splitDirectives rest
    (directive :: directives, rest)
  | tokens => ([], tokens)

/-- Whether a document that was marked has no root before these tokens. -/
def isRootless : List Token → Bool
  | [] | .directive _ :: _ | .documentStart :: _ | .documentEnd :: _ => true
  | _ => false

/-- The root that tokens form and the tokens behind it; `marked` says whether the start of the document
was marked. -/
def readRoot? (marked : Bool) (handles : Tag.Handles) (tokens : List Token) : Option (Node × List Token) :=
  if marked && isRootless tokens then some (.omitted, tokens)
  else
    ((Node.read true false (4 * tokens.length + 4)).run ⟨tokens, handles, []⟩).map fun (node, source) =>
      (node, source.tokens)

def ofTokens? (tokens : List Token) : Option Document :=
  if tokens.isEmpty then some .empty
  else do
    let (directives, tokens) := splitDirectives tokens
    let handles ← Directive.handles? false [] directives
    let (node, rest) ← match tokens with
      | .documentStart :: rest => readRoot? true handles rest
      | tokens => if directives.isEmpty then readRoot? false handles tokens else none
    if rest.all (· == .documentEnd) then some (.root node) else none

def read? (text : String) : Option Document :=
  (tokens? text).bind ofTokens?

end Document

end Yaml
end RecordDirectory
