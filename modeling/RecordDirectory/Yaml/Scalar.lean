import RecordDirectory.Text.Hexadecimal
import RecordDirectory.Yaml.Cursor

/-!
The scalars of a YAML text: plain words and quoted texts.

Each reader goes on character by character, with the text so far in reverse and the gap since its last
word. It gives the text with the position after it, or nothing where the text is malformed. The fuel is
the number of characters at most.
-/

namespace RecordDirectory
namespace Yaml

/-- The ways to write a scalar. -/
inductive Style where
  | plain
  | quoted
  | literal
  | folded
deriving DecidableEq, Inhabited

/-- A scalar that was read, with the position after it, and whether that lies on a later line than the
scalar's last word. -/
structure ScalarRead where
  text : List Char
  after : Cursor
  broken : Bool

/-- A plain scalar that ends here, given its text in reverse and the gap since its last word. -/
def ScalarRead.ending (text : List Char) (cur : Cursor) (gap : Gap) : ScalarRead :=
  ⟨text.reverse, cur, gap.broken⟩

/-- Marks of flow collections, which end a plain scalar inside of one. -/
def isFlowMark (c : Char) : Bool :=
  c = ',' || c = '[' || c = ']' || c = '\x7b' || c = '\x7d'

/-- Reads a plain scalar. It ends before a comment, a document mark, a colon at the end of a word, a
mark of a flow collection inside of one, and outside of one before a line that is not indented. -/
def readPlain? (inFlow : Bool) (indent : Int) :
    Nat → Cursor → (text : List Char) → Gap → (atWord : Bool) → Option ScalarRead
  | 0, _, _, _, _ => none
  | fuel + 1, cur, text, gap, atWord =>
    match cur.rest with
    | [] => some (.ending text cur gap)
    | c :: next =>
      if isBreak c then
        readPlain? inFlow indent fuel cur.nextLine text (gap.addBreak c) true
      else if isBlank c then
        if gap.broken && (cur.column : Int) < indent && c = '\t' then none
        else readPlain? inFlow indent fuel (cur.skip 1) text (gap.addBlank c) true
      else if atWord && ((!inFlow && (cur.column : Int) < indent) || c = '#' || cur.atDocumentMark) then
        some (.ending text cur gap)
      else if c = ':' && endsWord next then some (.ending text cur gap)
      else if inFlow && c = ':' && next.head?.any (fun d => isFlowMark d || d = '?') then none
      else if inFlow && isFlowMark c then some (.ending text cur gap)
      else readPlain? inFlow indent fuel (cur.skip 1) (c :: (gap.fold.reverse ++ text)) .none false

/-- The character that a letter after a backslash stands for. -/
def escapedChar? : Char → Option Char
  | '0' => some '\x00'
  | 'a' => some '\x07'
  | 'b' => some '\x08'
  | 't' => some '\t'
  | '\t' => some '\t'
  | 'n' => some '\n'
  | 'v' => some '\x0b'
  | 'f' => some '\x0c'
  | 'r' => some '\r'
  | 'e' => some '\x1b'
  | ' ' => some ' '
  | '"' => some '"'
  | '/' => some '/'
  | '\\' => some '\\'
  | 'N' => some '\u0085'
  | '_' => some '\u00a0'
  | 'L' => some '\u2028'
  | 'P' => some '\u2029'
  | _ => none

/-- How many hexadecimal digits follow a letter after a backslash. -/
def escapedLength? : Char → Option Nat
  | 'x' => some 2
  | 'u' => some 4
  | 'U' => some 8
  | _ => none

def numberedChar? (digits : List Char) : Option Char := do
  let values ← digits.mapM Hexadecimal.read?
  let n := values.foldl (fun n d => n * 16 + d.val) 0
  if h : n.isValidChar then some (Char.ofNatAux n h) else none

/-- Reads an escape, given the characters after its backslash; gives the character and the length. -/
def readEscape? : List Char → Option (Char × Nat)
  | [] => none
  | letter :: rest =>
    match escapedLength? letter with
    | none => (escapedChar? letter).map fun c => (c, 1)
    | some length =>
      if rest.length < length then none
      else (numberedChar? (rest.take length)).map fun c => (c, length + 1)

/-- Reads a scalar in single quotes from behind the first; a quote in it is written twice. -/
def readSingleQuoted? : Nat → Cursor → (text : List Char) → Gap → (atWord : Bool) → Option ScalarRead
  | 0, _, _, _, _ => none
  | fuel + 1, cur, text, gap, atWord =>
    if atWord && cur.atDocumentMark then none
    else
      match cur.rest with
      | [] => none
      | '\x27' :: '\x27' :: _ =>
        readSingleQuoted? fuel (cur.skip 2) ('\x27' :: (gap.fold.reverse ++ text)) .none false
      | '\x27' :: _ => some ⟨text.reverse ++ gap.fold, cur.skip 1, false⟩
      | c :: _ =>
        if isBreak c then readSingleQuoted? fuel cur.nextLine text (gap.addBreak c) true
        else if isBlank c then readSingleQuoted? fuel (cur.skip 1) text (gap.addBlank c) true
        else readSingleQuoted? fuel (cur.skip 1) (c :: (gap.fold.reverse ++ text)) .none false

/-- Reads a scalar in double quotes from behind the first; a backslash starts an escape. -/
def readDoubleQuoted? : Nat → Cursor → (text : List Char) → Gap → (atWord : Bool) → Option ScalarRead
  | 0, _, _, _, _ => none
  | fuel + 1, cur, text, gap, atWord =>
    if atWord && cur.atDocumentMark then none
    else
      match cur.rest with
      | [] => none
      | '"' :: _ => some ⟨text.reverse ++ gap.fold, cur.skip 1, false⟩
      | '\\' :: rest =>
        let text := gap.fold.reverse ++ text
        if rest.head?.any isBreak then
          readDoubleQuoted? fuel (cur.skip 1).nextLine text .continued true
        else
          match readEscape? rest with
          | none => none
          | some (c, length) => readDoubleQuoted? fuel (cur.skip (length + 1)) (c :: text) .none false
      | c :: _ =>
        if isBreak c then readDoubleQuoted? fuel cur.nextLine text (gap.addBreak c) true
        else if isBlank c then readDoubleQuoted? fuel (cur.skip 1) text (gap.addBlank c) true
        else readDoubleQuoted? fuel (cur.skip 1) (c :: (gap.fold.reverse ++ text)) .none false

end Yaml
end RecordDirectory
