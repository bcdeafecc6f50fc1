import RecordDirectory.Yaml.Block
import RecordDirectory.Yaml.Tag

/-!
YAML texts as lists of tokens.

The indentation of lines becomes tokens of its own, which open and close block collections. Whether a
scalar or a flow collection is the key of a mapping shows only at the colon behind it, so each is kept
as a possible key until then, and the tokens that a key needs are put in before it. A key that does not
start its line's block is one only on its own line and over at most 1024 characters.

Which token comes next shows at its first characters. A directive starts its line, and inside a flow
collection there are no block scalars. Tags, anchors and aliases may stand before a key, so they are kept
as possible keys like scalars; what they refer to shows only when nodes are read from the tokens.
-/

namespace RecordDirectory
namespace Yaml

/-- A token. -/
inductive Token where
  | documentStart
  | documentEnd
  | blockSequenceStart
  | blockMappingStart
  | blockEnd
  | flowSequenceStart
  | flowSequenceEnd
  | flowMappingStart
  | flowMappingEnd
  | flowEntry
  | blockEntry
  | key
  | value
  | directive (directive : Directive)
  | tag (tag : Tag)
  | anchor (name : List Char)
  | alias (name : List Char)
  | scalar (text : String) (style : Style)
deriving DecidableEq, Inhabited

/-- What may turn out to be a key: where it starts and which token it is. It has to turn out so when it
stands where the block around it expects its next key. -/
structure PossibleKey where
  required : Bool
  token : Nat
  offset : Nat
  line : Nat
  column : Nat
deriving DecidableEq, Inhabited

/-- The state of reading: the position, the tokens so far, the columns of the open blocks, whether a
key may start here, and the possible keys, one at most in the block and in each open flow collection. -/
structure Layout where
  cursor : Cursor
  tokens : List Token
  indent : Int
  outer : List Int
  keyAllowed : Bool
  blockKey : Option PossibleKey
  flowKeys : List (Option PossibleKey)
deriving DecidableEq, Inhabited

namespace Layout

def start (cs : List Char) : Layout where
  cursor := .start cs
  tokens := []
  indent := -1
  outer := []
  keyAllowed := true
  blockKey := none
  flowKeys := []

/-- Whether the position is inside a flow collection. -/
def inFlow (s : Layout) : Bool :=
  !s.flowKeys.isEmpty

/-- The possible key of the innermost collection. -/
def currentKey (s : Layout) : Option PossibleKey :=
  match s.flowKeys with
  | key :: _ => key
  | [] => s.blockKey

/-- Replaces the possible key of the innermost collection. -/
def setKey (s : Layout) (key : Option PossibleKey) : Layout :=
  match s.flowKeys with
  | _ :: rest => { s with flowKeys := key :: rest }
  | [] => { s with blockKey := key }

def push (s : Layout) (token : Token) : Layout :=
  { s with tokens := s.tokens ++ [token] }

/-- Whether a possible key cannot be one any more at a position. -/
def isStale (cur : Cursor) (key : PossibleKey) : Bool :=
  key.line < cur.line || key.offset + 1024 < cur.offset

/-- Forgets a possible key that is stale; one that had to be a key is a fault. -/
def refreshKey? (cur : Cursor) : Option PossibleKey → Option (Option PossibleKey)
  | none => some none
  | some key => if isStale cur key then if key.required then none else some none else some (some key)

/-- Forgets all possible keys that are stale. -/
def refresh? (s : Layout) : Option Layout := do
  let blockKey ← refreshKey? s.cursor s.blockKey
  let flowKeys ← s.flowKeys.mapM (refreshKey? s.cursor)
  some { s with blockKey := blockKey, flowKeys := flowKeys }

/-- Forgets the possible key of the innermost collection; one that had to be a key is a fault. -/
def dropKey? (s : Layout) : Option Layout :=
  match s.currentKey with
  | some key => if key.required then none else some (s.setKey none)
  | none => some s

/-- Keeps the token that comes next as a possible key, where a key may start. -/
def saveKey? (s : Layout) : Option Layout :=
  if s.keyAllowed then
    s.dropKey?.map fun s =>
      s.setKey (some
        { required := !s.inFlow && s.indent == s.cursor.column
          token := s.tokens.length
          offset := s.cursor.offset
          line := s.cursor.line
          column := s.cursor.column })
  else
    some s

/-- Opens a block at a column that is further in than the present one, with its token put in at a
place. -/
def openBlock (s : Layout) (column : Int) (place : Nat) (token : Token) : Layout :=
  if s.inFlow || column ≤ s.indent then s
  else
    { s with
      tokens := s.tokens.take place ++ token :: s.tokens.drop place
      indent := column
      outer := s.indent :: s.outer }

/-- Closes the blocks that are further in than a column, of the `outer` ones and the innermost. -/
def closeBlocks (column : Int) : (outer : List Int) → (indent : Int) → List Token × List Int × Int
  | [], indent => ([], [], indent)
  | next :: rest, indent =>
    if column < indent then
      let (tokens, outer, indent) := closeBlocks column rest next
      (.blockEnd :: tokens, outer, indent)
    else
      ([], next :: rest, indent)

/-- Closes all blocks that are further in than a column. -/
def close (s : Layout) (column : Int) : Layout :=
  if s.inFlow then s
  else
    let (tokens, outer, indent) := closeBlocks column s.outer s.indent
    { s with tokens := s.tokens ++ tokens, outer := outer, indent := indent }

/-- Skips the position over blanks, comments and line breaks; a new line of a block allows a key. A tab
counts as a blank only where it cannot be taken for indentation. -/
def skipBlanks : Nat → Layout → Layout
  | 0, s => s
  | fuel + 1, s =>
    match s.cursor.rest with
    | [] => s
    | c :: _ =>
      if c = ' ' || s.cursor.atByteOrderMark || (c = '\t' && (s.inFlow || !s.keyAllowed)) then
        skipBlanks fuel { s with cursor := s.cursor.skip 1 }
      else if c = '#' then
        skipBlanks fuel { s with cursor := s.cursor.skipComment }
      else if isBreak c then
        skipBlanks fuel
          { s with cursor := s.cursor.nextLine, keyAllowed := s.keyAllowed || !s.inFlow }
      else
        s

/-- A token of some characters, with whether a key may start behind it. -/
def take (s : Layout) (length : Nat) (token : Token) (keyAllowed : Bool) : Layout :=
  { s.push token with cursor := s.cursor.skip length, keyAllowed := keyAllowed }

def documentMark? (s : Layout) (token : Token) : Option Layout :=
  (s.close (-1)).dropKey?.map fun s => s.take 3 token false

def directive? (s : Layout) : Option Layout := do
  let s ← (s.close (-1)).dropKey?
  let (directive, rest) ← Directive.read? (s.cursor.rest.drop 1)
  let cursor ← (s.cursor.skipTo rest).endLine?
  some { s.push (.directive directive) with cursor := cursor, keyAllowed := false }

def openFlow? (s : Layout) (token : Token) : Option Layout :=
  s.saveKey?.map fun s =>
    let s := s.take 1 token true
    { s with flowKeys := none :: s.flowKeys }

def closeFlow? (s : Layout) (token : Token) : Option Layout :=
  s.dropKey?.map fun s =>
    let s := s.take 1 token false
    { s with flowKeys := s.flowKeys.drop 1 }

/-- The comma between the entries of a flow collection. -/
def flowEntry? (s : Layout) : Option Layout :=
  s.dropKey?.map fun s => s.take 1 .flowEntry true

/-- The dash before an entry of a block sequence. -/
def blockEntry? (s : Layout) : Option Layout :=
  if s.inFlow || s.keyAllowed then
    (s.openBlock s.cursor.column s.tokens.length .blockSequenceStart).dropKey?.map fun s =>
      s.take 1 .blockEntry true
  else
    none

/-- The question mark before a key. -/
def keyMark? (s : Layout) : Option Layout :=
  if s.inFlow || s.keyAllowed then
    (s.openBlock s.cursor.column s.tokens.length .blockMappingStart).dropKey?.map fun s =>
      s.take 1 .key (!s.inFlow)
  else
    none

/-- The colon before a value. If there is a possible key, it is one: its token is put in before it, and
where it starts a mapping the mapping's token as well. -/
def valueMark? (s : Layout) : Option Layout :=
  match s.currentKey with
  | some key =>
    let withKey := { s with tokens := s.tokens.take key.token ++ Token.key :: s.tokens.drop key.token }
    let opened := (withKey.setKey none).openBlock key.column key.token .blockMappingStart
    some (opened.take 1 .value false)
  | none =>
    if s.inFlow || s.keyAllowed then
      let opened := s.openBlock s.cursor.column s.tokens.length .blockMappingStart
      some (opened.take 1 .value (!s.inFlow))
    else
      none

def takeScalar (s : Layout) (style : Style) (read : ScalarRead) : Layout :=
  { s.push (.scalar (String.ofList read.text) style) with
    cursor := read.after
    keyAllowed := read.broken }

def scalar? (s : Layout) (style : Style) (read : Option ScalarRead) : Option Layout := do
  let s ← s.saveKey?
  let read ← read
  some (s.takeScalar style read)

def blockScalar? (s : Layout) (style : Style) : Option Layout := do
  let s ← s.dropKey?
  let read ← readBlock? (style = .literal) s.indent (s.cursor.skip 1)
  some (s.takeScalar style read)

/-- Whether a name may stand before these characters. -/
def endsName (cs : List Char) : Bool :=
  endsWord cs || cs.head?.any fun c => c ∈ ['?', ':', ',', ']', '\x7d', '%', '@', '\x60']

def name? (s : Layout) (token : List Char → Token) : Option Layout := do
  let s ← s.saveKey?
  let cs := s.cursor.rest.drop 1
  let name := cs.takeWhile isNameChar
  if name.isEmpty || !endsName (cs.dropWhile isNameChar) then none
  else some (s.take (name.length + 1) (token name) false)

def tag? (s : Layout) : Option Layout := do
  let s ← s.saveKey?
  let (tag, rest) ← Tag.read? s.inFlow s.cursor.rest
  some (s.take (s.cursor.rest.length - rest.length) (.tag tag) false)

/-- Whether a character with those behind it can start a plain scalar. -/
def startsPlain (inFlow : Bool) (c : Char) (next : List Char) : Bool :=
  if c = '-' then !next.head?.any isBlank
  else if c = '?' || c = ':' then !inFlow && !endsWord next
  else
    !(isBlank c || isFlowMark c || c = '#' || c = '&' || c = '*' || c = '!' || c = '|' || c = '>' ||
      c = '\x27' || c = '"' || c = '%' || c = '@' || c = '\x60')

/-- Reads one token at a position where there is something to read. -/
def readToken? (s : Layout) (c : Char) (next : List Char) : Option Layout :=
  let fuel := s.cursor.rest.length + 1
  if s.cursor.column = 0 && c = '%' then s.directive?
  else if s.cursor.atMark '-' then s.documentMark? .documentStart
  else if s.cursor.atMark '.' then s.documentMark? .documentEnd
  else if c = '[' then s.openFlow? .flowSequenceStart
  else if c = '\x7b' then s.openFlow? .flowMappingStart
  else if c = ']' then s.closeFlow? .flowSequenceEnd
  else if c = '\x7d' then s.closeFlow? .flowMappingEnd
  else if c = ',' then s.flowEntry?
  else if c = '-' && endsWord next then s.blockEntry?
  else if c = '?' && (s.inFlow || endsWord next) then s.keyMark?
  else if c = ':' && (s.inFlow || endsWord next) then s.valueMark?
  else if c = '*' then s.name? .alias
  else if c = '&' then s.name? .anchor
  else if c = '!' then s.tag?
  else if c = '|' && !s.inFlow then s.blockScalar? .literal
  else if c = '>' && !s.inFlow then s.blockScalar? .folded
  else if c = '\x27' then s.scalar? .quoted (readSingleQuoted? fuel (s.cursor.skip 1) [] .none true)
  else if c = '"' then s.scalar? .quoted (readDoubleQuoted? fuel (s.cursor.skip 1) [] .none true)
  else if startsPlain s.inFlow c next then
    s.scalar? .plain (readPlain? s.inFlow (s.indent + 1) fuel s.cursor [] .none false)
  else none

def readTokens? : Nat → Layout → Option (List Token)
  | 0, _ => none
  | fuel + 1, s => do
    let s ← (skipBlanks (s.cursor.rest.length + 1) s).refresh?
    match s.cursor.rest with
    | [] => (s.close (-1)).dropKey?.map Layout.tokens
    | c :: next =>
      let s ← (s.close s.cursor.column).readToken? c next
      readTokens? fuel s

end Layout

def tokens? (text : String) : Option (List Token) :=
  let cs := text.toList
  if cs.all isAllowed then Layout.readTokens? (cs.length + 1) (.start cs) else none

end Yaml
end RecordDirectory
