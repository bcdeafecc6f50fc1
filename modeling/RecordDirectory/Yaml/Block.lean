import RecordDirectory.Yaml.Scalar

/-!
Scalars in lines of their own.

A bar or an angle bracket starts such a scalar. The rest of that line may say how deep its lines are
indented and what becomes of the breaks at its end; without a depth the first line that is not empty
sets it. A bar keeps the lines as they are. An angle bracket folds them: one break between two lines
becomes a blank, but not beside a line that starts with a blank.
-/

namespace RecordDirectory
namespace Yaml

/-- What becomes of the breaks at the end of a block scalar. -/
inductive Chomping where
  /-- All are dropped. -/
  | strip
  /-- The first is kept. -/
  | clip
  /-- All are kept. -/
  | keep
deriving DecidableEq, Inhabited

/-- What the first line of a block scalar says. A depth is counted from the block around the scalar. -/
structure BlockHeader where
  chomping : Chomping
  depth : Option Nat
deriving DecidableEq, Inhabited

namespace BlockHeader

/-- The sign that keeps or drops the breaks at the end. -/
def chomping? : Char → Option Chomping
  | '+' => some .keep
  | '-' => some .strip
  | _ => none

/-- Takes a depth, if a digit comes next; there is no depth of zero. -/
def takeDepth? (cur : Cursor) : Option (Option Nat × Cursor) :=
  match cur.rest with
  | c :: _ =>
    if c = '0' then none
    else if c.isDigit then some (some (c.toNat - '0'.toNat), cur.skip 1)
    else some (none, cur)
  | [] => some (none, cur)

/-- Takes the sign for the breaks at the end, if it comes next. -/
def takeChomping (cur : Cursor) : Chomping × Cursor :=
  match cur.rest.head?.bind chomping? with
  | some chomping => (chomping, cur.skip 1)
  | none => (.clip, cur)

/-- Reads the first line of a block scalar from behind its mark; the sign and the digit stand in either
order. -/
def read? (cur : Cursor) : Option (BlockHeader × Cursor) := do
  let (header, cur) ← match cur.rest.head?.bind chomping? with
    | some chomping => do
      let (depth, cur) ← takeDepth? (cur.skip 1)
      some (BlockHeader.mk chomping depth, cur)
    | none => do
      let (depth, cur) ← takeDepth? cur
      let (chomping, cur) := if depth.isSome then takeChomping cur else (.clip, cur)
      some (BlockHeader.mk chomping depth, cur)
  let cur ← cur.endLine?
  some (header, cur)

end BlockHeader

/-- Skips the indentation before a line of a block scalar with the empty lines before it, whose breaks
are gathered in reverse. Without a depth all blanks are indentation, and the deepest counts. -/
def skipIndentation? (column : Option Nat) :
    Nat → Cursor → (breaks : List Char) → (deepest : Nat) → Option (Cursor × List Char × Nat)
  | 0, _, _, _ => none
  | fuel + 1, cur, breaks, deepest =>
    let blanks := (cur.rest.takeWhile (· = ' ')).length
    let cur := cur.skip (match column with
      | some column => min blanks (column - cur.column)
      | none => blanks)
    let deepest := max deepest cur.column
    match cur.rest with
    | [] => some (cur, breaks, deepest)
    | c :: _ =>
      if c = '\t' && column.all (cur.column < ·) then none
      else if isBreak c then skipIndentation? column fuel cur.nextLine (keptBreak c :: breaks) deepest
      else some (cur, breaks, deepest)

/-- What stands between two lines of a block scalar: the break of the first, then the breaks of empty
lines. A folded break is left out, or is a blank where there is no other. -/
def joinLines (folds : Bool) (first : List Char) (more : List Char) : List Char :=
  if folds && first = ['\n'] then (if more.isEmpty then [' '] else more) else first ++ more

/-- Reads the lines of a block scalar that start in a column. The text so far is in reverse; `first` and
`more` are the breaks since its last line, and `blankStart` says whether that line starts with a
blank. -/
def readLines? (literal : Bool) (column : Nat) :
    Nat → Cursor → (text : List Char) → (first more : List Char) → (blankStart : Bool) →
      Option (List Char × List Char × List Char × Cursor)
  | 0, _, _, _, _, _ => none
  | fuel + 1, cur, text, first, more, blankStart =>
    match cur.rest with
    | [] => some (text, first, more, cur)
    | c :: _ =>
      if cur.column = column then do
        let gap := joinLines (!literal && !blankStart && !isBlank c) first more
        let line := cur.rest.takeWhile fun d => !isBreak d
        let text := line.reverse ++ (gap.reverse ++ text)
        let cur := cur.skip line.length
        let (first, cur) := match cur.rest with
          | [] => ([], cur)
          | d :: _ => ([keptBreak d], cur.nextLine)
        let (cur, more, _) ← skipIndentation? (some column) (cur.rest.length + 1) cur [] 0
        readLines? literal column fuel cur text first more.reverse (isBlank c)
      else
        some (text, first, more, cur)

/-- Reads a block scalar from behind its mark; `indent` is the column of the block around it, or less
than zero. -/
def readBlock? (literal : Bool) (indent : Int) (cur : Cursor) : Option ScalarRead := do
  let (header, cur) ← BlockHeader.read? cur
  let column := header.depth.map (indent.toNat + ·)
  let (cur, breaks, deepest) ← skipIndentation? column (cur.rest.length + 1) cur [] 0
  let column := column.getD (max (max deepest (indent + 1).toNat) 1)
  let (text, first, more, cur) ←
    readLines? literal column (cur.rest.length + 1) cur [] [] breaks.reverse false
  let ending := match header.chomping with
    | .strip => []
    | .clip => first
    | .keep => first ++ more
  some ⟨text.reverse ++ ending, cur, true⟩

end Yaml
end RecordDirectory
