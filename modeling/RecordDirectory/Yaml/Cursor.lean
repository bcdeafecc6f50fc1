/-!
Positions in a YAML text, and the blanks between its words.

A line ends at a line feed, a carriage return, both together, or one of three Unicode separators. The
blanks between two words of a scalar form a gap: within a line it is kept, and over line breaks it is
folded.
-/

namespace RecordDirectory
namespace Yaml

/-- A position in a text, by the characters from there on and the number of bytes before it. -/
structure Cursor where
  rest : List Char
  offset : Nat
  line : Nat
  column : Nat
deriving DecidableEq, Inhabited

def isBlank (c : Char) : Bool :=
  c = ' ' || c = '\t'

def isBreak (c : Char) : Bool :=
  c = '\n' || c = '\r' || c = '\u0085' || c = '\u2028' || c = '\u2029'

/-- Whether a word ends before these characters. -/
def endsWord : List Char → Bool
  | [] => true
  | c :: _ => isBlank c || isBreak c

/-- The break that a text keeps: a separator of lines or paragraphs stays itself, any other break is a
line feed. -/
def keptBreak (c : Char) : Char :=
  if c = '\u2028' || c = '\u2029' then c else '\n'

def isNameChar (c : Char) : Bool :=
  c.isAlphanum || c = '_' || c = '-'

/-- Whether a character may stand in a document at all. -/
def isAllowed (c : Char) : Bool :=
  let n := c.toNat
  n == 0x9 || n == 0xa || n == 0xd || (0x20 ≤ n && n ≤ 0x7e) || n == 0x85 ||
    (0xa0 ≤ n && n ≤ 0xfffd) || 0x10000 ≤ n

/-- The number of bytes that characters take. -/
def byteCount (cs : List Char) : Nat :=
  cs.foldl (fun n c => n + c.utf8Size) 0

namespace Cursor

def start (cs : List Char) : Cursor :=
  ⟨cs, 0, 0, 0⟩

/-- The position after `n` characters of one line. -/
def skip (cur : Cursor) (n : Nat) : Cursor :=
  { cur with
    rest := cur.rest.drop n
    offset := cur.offset + byteCount (cur.rest.take n)
    column := cur.column + n }

/-- The position on the same line where only these characters are left. -/
def skipTo (cur : Cursor) (rest : List Char) : Cursor :=
  cur.skip (cur.rest.length - rest.length)

/-- The position behind the characters of a kind. -/
def skipWhile (cur : Cursor) (belongs : Char → Bool) : Cursor :=
  cur.skipTo (cur.rest.dropWhile belongs)

def nextLine (cur : Cursor) : Cursor :=
  let length := match cur.rest with
    | '\r' :: '\n' :: _ => 2
    | _ => 1
  { rest := cur.rest.drop length
    offset := cur.offset + byteCount (cur.rest.take length)
    line := cur.line + 1
    column := 0 }

/-- The position behind a comment, if one starts here. -/
def skipComment (cur : Cursor) : Cursor :=
  if cur.rest.head? = some '#' then cur.skipWhile fun c => !isBreak c else cur

/-- The start of the next line, if only blanks and a comment are left on this one. -/
def endLine? (cur : Cursor) : Option Cursor :=
  let cur := (cur.skipWhile isBlank).skipComment
  match cur.rest with
  | [] => some cur
  | c :: _ => if isBreak c then some cur.nextLine else none

/-- Whether the mark of a byte order starts the line here, which counts as a blank there. -/
def atByteOrderMark (cur : Cursor) : Bool :=
  cur.column == 0 && cur.rest.head? == some '\ufeff'

/-- Whether a word of three equal characters starts the line here. -/
def atMark (cur : Cursor) (mark : Char) : Bool :=
  match cur.rest with
  | a :: b :: c :: rest => cur.column == 0 && a == mark && b == mark && c == mark && endsWord rest
  | _ => false

/-- Whether a document starts or ends here. -/
def atDocumentMark (cur : Cursor) : Bool :=
  cur.atMark '-' || cur.atMark '.'

end Cursor

/-- The blanks since the last word: those of its line, the first break if there was one, and the breaks
after it. A break that was written only to continue the line has no text. -/
structure Gap where
  blanks : List Char
  first : Option (List Char)
  more : List Char
deriving DecidableEq, Inhabited

namespace Gap

/-- No blanks. -/
def none : Gap :=
  ⟨[], .none, []⟩

/-- Whether the gap goes over a line break. -/
def broken (gap : Gap) : Bool :=
  gap.first.isSome

/-- The gap with one more blank, which does not count at the start of a line. -/
def addBlank (gap : Gap) (c : Char) : Gap :=
  if gap.broken then gap else { gap with blanks := gap.blanks ++ [c] }

def addBreak (gap : Gap) (c : Char) : Gap :=
  match gap.first with
  | .none => { gap with first := some [keptBreak c] }
  | some _ => { gap with more := gap.more ++ [keptBreak c] }

/-- The gap that starts with a continued line. -/
def continued : Gap :=
  ⟨[], some [], []⟩

/-- What a gap leaves between two words: one line feed becomes a blank, and of several the first is
dropped. -/
def fold (gap : Gap) : List Char :=
  match gap.first with
  | .none => gap.blanks
  | some ['\n'] => if gap.more.isEmpty then [' '] else gap.more
  | some first => first ++ gap.more

end Gap

end Yaml
end RecordDirectory
