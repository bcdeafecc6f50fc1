import RecordDirectory.Yaml.Token

/-!
The nodes of YAML documents, read from tokens.

What is left out between the marks of a collection is an empty plain scalar. An anchor gives a node a
number, by which aliases refer to it: the number of names that anchors have had so far. So an anchor
whose name is new has a number of its own, but one that takes a name again has the number that the next
new name will have, and of the nodes with one number an alias means the last (`Node.numbered`).
-/

namespace RecordDirectory
namespace Yaml

/-- A scalar with the name of its tag. -/
structure Scalar where
  text : String
  style : Style
  tag : Option (List Char)
deriving DecidableEq, Inhabited

/-- A node of a document, with the number of its anchor. -/
inductive Node where
  | scalar (anchor : Option Nat) (content : Scalar)
  | sequence (anchor : Option Nat) (items : List Node)
  | mapping (anchor : Option Nat) (entries : List (Node × Node))
  /-- The node with a number. -/
  | alias (number : Nat)
deriving Inhabited

/-- What is left to read, what handles stand for, and the numbers that names of anchors have now. -/
structure Source where
  tokens : List Token
  handles : Tag.Handles
  numbers : List (List Char × Nat)
deriving Inhabited

/-- Reads from a source, or fails where it is malformed. -/
abbrev Reader (α : Type) := StateT Source Option α

namespace Reader

/-- The token that comes next, which is not taken. -/
def peek : Reader (Option Token) := do
  return (← get).tokens.head?

def advance : Reader Unit :=
  modify fun source => { source with tokens := source.tokens.drop 1 }

/-- Whether one of these tokens comes next. -/
def isAt (marks : List Token) : Reader Bool := do
  return (← peek).any (· ∈ marks)

/-- Takes a token if it comes next, and says whether it did. -/
def accept (mark : Token) : Reader Bool := do
  if ← isAt [mark] then
    advance
    return true
  else
    return false

def expect (mark : Token) : Reader Unit := do
  unless ← accept mark do failure

/-- The number of a new anchor. The names that have a number are counted once each. -/
def number (name : List Char) : Reader Nat := do
  let source ← get
  let count := source.numbers.length
  set { source with numbers := (name, count) :: source.numbers.filter (·.1 != name) }
  return count

def numberOf (name : List Char) : Reader Nat := do
  match (← get).numbers.lookup name with
  | some number => return number
  | none => failure

def anchor : Reader (Option (List Char)) := do
  match ← peek with
  | some (.anchor name) =>
    advance
    return some name
  | _ => return none

/-- Takes a tag if one comes next, and gives its name. -/
def tag : Reader (Option (List Char)) := do
  match ← peek with
  | some (.tag tag) =>
    advance
    match tag.name? (← get).handles with
    | some name => return some name
    | none => failure
  | _ => return none

/-- Takes the anchor and the tag of a node, in either order. -/
def properties : Reader (Option Nat × Option (List Char)) := do
  let before ← anchor
  let tag ← tag
  let name ← if before.isSome then pure before else anchor
  match name with
  | some name => return (some (← number name), tag)
  | none => return (none, tag)

end Reader

namespace Node

open Reader

def omitted : Node :=
  .scalar none ⟨"", .plain, none⟩

mutual

/-- A node; `inBlock` admits block collections, and `indentless` a sequence whose dashes stand in the
column of the key before them. An anchor or a tag alone makes an empty scalar. -/
def read (inBlock indentless : Bool) : Nat → Reader Node
  | 0 => failure
  | fuel + 1 => do
    if let some (.alias name) ← peek then
      advance
      return .alias (← numberOf name)
    let (anchor, tag) ← properties
    match ← peek with
    | some (.scalar text style) =>
      advance
      return .scalar anchor ⟨text, style, tag⟩
    | some .flowSequenceStart =>
      advance
      return .sequence anchor (← readFlowItems true fuel)
    | some .flowMappingStart =>
      advance
      return .mapping anchor (← readFlowEntries true fuel)
    | token =>
      if indentless && token = some .blockEntry then
        return .sequence anchor (← readIndentlessItems fuel)
      else if inBlock && token = some .blockSequenceStart then
        advance
        return .sequence anchor (← readItems fuel)
      else if inBlock && token = some .blockMappingStart then
        advance
        return .mapping anchor (← readEntries fuel)
      else if anchor.isSome || tag.isSome then
        return .scalar anchor ⟨"", .plain, tag⟩
      else
        failure

/-- A node of a block collection, or the omitted one before one of these marks. -/
def readUnless (indentless : Bool) (marks : List Token) : Nat → Reader Node
  | 0 => failure
  | fuel + 1 => do
    if ← isAt marks then return omitted
    read true indentless fuel

/-- A node of a flow collection, or the omitted one before one of these marks. -/
def readFlowUnless (marks : List Token) : Nat → Reader Node
  | 0 => failure
  | fuel + 1 => do
    if ← isAt marks then return omitted
    read false false fuel

/-- The items of a block sequence, up to its end. -/
def readItems : Nat → Reader (List Node)
  | 0 => failure
  | fuel + 1 => do
    if ← accept .blockEntry then
      let item ← readUnless false [.blockEntry, .blockEnd] fuel
      return item :: (← readItems fuel)
    expect .blockEnd
    return []

/-- The items of a sequence in the column of its key, which ends where no item follows. -/
def readIndentlessItems : Nat → Reader (List Node)
  | 0 => failure
  | fuel + 1 => do
    if ← accept .blockEntry then
      let item ← readUnless false [.blockEntry, .key, .value, .blockEnd] fuel
      return item :: (← readIndentlessItems fuel)
    return []

/-- The entries of a block mapping, up to its end. -/
def readEntries : Nat → Reader (List (Node × Node))
  | 0 => failure
  | fuel + 1 => do
    if ← accept .key then
      let key ← readUnless true [.key, .value, .blockEnd] fuel
      let value ← if ← accept .value then readUnless true [.key, .value, .blockEnd] fuel else pure omitted
      return (key, value) :: (← readEntries fuel)
    expect .blockEnd
    return []

/-- The value behind a key of a flow collection, if a colon comes next. -/
def readFlowValue (marks : List Token) : Nat → Reader Node
  | 0 => failure
  | fuel + 1 => do
    if ← accept .value then readFlowUnless marks fuel else return omitted

/-- The single entry of a mapping that is an item of a flow sequence, from behind the mark of its key. A
key that is left out takes the mark behind it along. -/
def readFlowPair : Nat → Reader (Node × Node)
  | 0 => failure
  | fuel + 1 => do
    let marks := [.flowEntry, .flowSequenceEnd]
    let key ←
      if ← isAt (.value :: marks) then
        advance
        pure omitted
      else
        read false false fuel
    return (key, ← readFlowValue marks fuel)

/-- The items of a flow sequence, up to its end, with commas between them. -/
def readFlowItems (first : Bool) : Nat → Reader (List Node)
  | 0 => failure
  | fuel + 1 => do
    if ← accept .flowSequenceEnd then return []
    unless first do expect .flowEntry
    if ← accept .flowSequenceEnd then return []
    if ← accept .key then
      let entry ← readFlowPair fuel
      return .mapping none [entry] :: (← readFlowItems false fuel)
    let item ← read false false fuel
    return item :: (← readFlowItems false fuel)

/-- The entries of a flow mapping, up to its end, with commas between them. A node without the mark of a
key is a key without a value. -/
def readFlowEntries (first : Bool) : Nat → Reader (List (Node × Node))
  | 0 => failure
  | fuel + 1 => do
    if ← accept .flowMappingEnd then return []
    unless first do expect .flowEntry
    if ← accept .flowMappingEnd then return []
    if ← accept .key then
      let key ← readFlowUnless [.value, .flowEntry, .flowMappingEnd] fuel
      let value ← readFlowValue [.flowEntry, .flowMappingEnd] fuel
      return (key, value) :: (← readFlowEntries false fuel)
    let key ← read false false fuel
    return (key, omitted) :: (← readFlowEntries false fuel)

end

def own (anchor : Option Nat) (node : Node) : List (Nat × Node) :=
  anchor.toList.map fun number => (number, node)

mutual

/-- The nodes that have a number, in the order in which they start. -/
def numbered : Node → List (Nat × Node)
  | .scalar anchor content => own anchor (.scalar anchor content)
  | .sequence anchor items => own anchor (.sequence anchor items) ++ numberedItems items
  | .mapping anchor entries => own anchor (.mapping anchor entries) ++ numberedEntries entries
  | .alias _ => []

/-- The nodes in a sequence that have a number. -/
def numberedItems : List Node → List (Nat × Node)
  | [] => []
  | item :: rest => item.numbered ++ numberedItems rest

/-- The nodes in a mapping that have a number. -/
def numberedEntries : List (Node × Node) → List (Nat × Node)
  | [] => []
  | (key, value) :: rest => key.numbered ++ value.numbered ++ numberedEntries rest

end

/-- The scalar that a node under a root is, or that it refers to. -/
def scalar? (root : Node) : Node → Option Scalar
  | .scalar _ content => some content
  | .alias number =>
    match (root.numbered.filter (·.1 == number)).getLast? with
    | some (_, .scalar _ content) => some content
    | _ => none
  | .sequence _ _ | .mapping _ _ => none

end Node

end Yaml
end RecordDirectory
