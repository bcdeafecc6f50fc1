import RecordDirectory.Text.Hexadecimal
import RecordDirectory.Yaml.Cursor

/-!
Tags of nodes, and the directives before a document.

A tag is written as a handle, which stands for the start of a name, and the rest of the name. Directives
say what handles stand for; two handles always stand for something. A name is a sequence of octets, and a
character stands for each: names are only ever compared. Every reader gives what it read with the
characters behind it, or nothing where the text is malformed.
-/

namespace RecordDirectory
namespace Yaml

/-- A tag as it is written. The empty handle stands for nothing, and the rest is the whole name. -/
structure Tag where
  handle : List Char
  rest : List Char
deriving DecidableEq, Inhabited

/-- What a directive says. -/
inductive Directive where
  | version (major minor : Nat)
  | meaning (handle start : List Char)
deriving DecidableEq, Inhabited

namespace Tag

/-- The characters of names; some of them only where nothing but a name can stand. -/
def isAddressChar (alone : Bool) (c : Char) : Bool :=
  isNameChar c || c ∈ ";/?:@&=+$.!~*'()".toList || alone && (c = ',' || c = '[' || c = ']')

/-- Reads the two digits of an octet behind a percent sign. -/
def readOctet? : List Char → Option (Nat × List Char)
  | '%' :: a :: b :: rest => do
    let high ← Hexadecimal.read? a
    let low ← Hexadecimal.read? b
    some (high.val * 16 + low.val, rest)
  | _ => none

/-- How many octets a character has, by the first of them. -/
def octetCount? (n : Nat) : Option Nat :=
  if n < 0x80 then some 1
  else if 0xc0 ≤ n && n < 0xe0 then some 2
  else if 0xe0 ≤ n && n < 0xf0 then some 3
  else if 0xf0 ≤ n && n < 0xf8 then some 4
  else none

/-- Reads the octets of a character after the first. -/
def readFurther? : Nat → List Char → Option (List Char × List Char)
  | 0, cs => some ([], cs)
  | n + 1, cs => do
    let (octet, rest) ← readOctet? cs
    if 0x80 ≤ octet && octet < 0xc0 then
      let (octets, rest) ← readFurther? n rest
      some (Char.ofNat octet :: octets, rest)
    else
      none

def readOctets? (cs : List Char) : Option (List Char × List Char) := do
  let (octet, rest) ← readOctet? cs
  let count ← octetCount? octet
  let (octets, rest) ← readFurther? (count - 1) rest
  some (Char.ofNat octet :: octets, rest)

def readName? (alone : Bool) : Nat → List Char → Option (List Char × List Char)
  | 0, _ => none
  | _ + 1, [] => some ([], [])
  | fuel + 1, c :: rest =>
    if c = '%' then do
      let (octets, rest) ← readOctets? (c :: rest)
      let (name, rest) ← readName? alone fuel rest
      some (octets ++ name, rest)
    else if isAddressChar alone c then do
      let (name, rest) ← readName? alone fuel rest
      some (c :: name, rest)
    else
      some ([], c :: rest)

/-- A name ends at its first null. -/
def untilNull (name : List Char) : List Char :=
  name.takeWhile (· ≠ '\x00')

def readSomeName? (alone : Bool) (cs : List Char) : Option (List Char × List Char) :=
  (readName? alone (cs.length + 1) cs).bind fun (name, rest) =>
    if name.isEmpty then none else some (untilNull name, rest)

/-- Reads a tag: a name in angle brackets, a handle between exclamation marks with the rest of a name, or
one exclamation mark with it. An exclamation mark alone is a name. -/
def readMarked? : List Char → Option (Tag × List Char)
  | '!' :: '<' :: cs => do
    let (name, rest) ← readSomeName? true cs
    match rest with
    | '>' :: rest => some (⟨[], name⟩, rest)
    | _ => none
  | '!' :: cs => do
    let word := cs.takeWhile isNameChar
    match cs.dropWhile isNameChar with
    | '!' :: cs =>
      let (name, rest) ← readSomeName? false cs
      some (⟨'!' :: word ++ ['!'], name⟩, rest)
    | cs =>
      let (more, rest) ← readName? false (cs.length + 1) cs
      let name := untilNull (word ++ more)
      some (if name.isEmpty then ⟨[], ['!']⟩ else ⟨['!'], name⟩, rest)
  | _ => none

/-- Reads a tag, which ends a word or, in a flow collection, stands before a comma. -/
def read? (inFlow : Bool) (cs : List Char) : Option (Tag × List Char) :=
  (readMarked? cs).bind fun (tag, rest) =>
    if endsWord rest || inFlow && rest.head? = some ',' then some (tag, rest) else none

/-- What handles stand for, by the start of a name. -/
abbrev Handles := List (List Char × List Char)

def standardHandles : Handles :=
  [(['!'], ['!']), (['!', '!'], "tag:yaml.org,2002:".toList)]

/-- The name of a tag, if its handle is known. -/
def name? (handles : Handles) (tag : Tag) : Option (List Char) :=
  if tag.handle.isEmpty then some tag.rest
  else (handles.lookup tag.handle).map (· ++ tag.rest)

end Tag

namespace Directive

def readNumber? (cs : List Char) : Option (Nat × List Char) :=
  let digits := cs.takeWhile Char.isDigit
  if digits.isEmpty || 9 < digits.length then none
  else some (digits.foldl (fun n d => n * 10 + (d.toNat - '0'.toNat)) 0, cs.dropWhile Char.isDigit)

/-- Reads a version, two numbers with a point between them. -/
def readVersion? (cs : List Char) : Option (Directive × List Char) := do
  let (major, rest) ← readNumber? cs
  match rest with
  | '.' :: rest =>
    let (minor, rest) ← readNumber? rest
    some (.version major minor, rest)
  | _ => none

/-- Reads a handle, which ends with its second exclamation mark unless it has one alone. -/
def readHandle? : List Char → Option (List Char × List Char)
  | '!' :: cs =>
    let word := cs.takeWhile isNameChar
    match cs.dropWhile isNameChar with
    | '!' :: rest => some ('!' :: word ++ ['!'], rest)
    | rest => if word.isEmpty then some (['!'], rest) else none
  | _ => none

/-- Reads a handle, blanks and the start of a name. -/
def readMeaning? (cs : List Char) : Option (Directive × List Char) := do
  let (handle, rest) ← readHandle? cs
  if rest.head?.any isBlank then
    let (start, rest) ← Tag.readSomeName? true (rest.dropWhile isBlank)
    if endsWord rest then some (.meaning handle start, rest) else none
  else
    none

/-- Reads a directive from behind its percent sign. -/
def read? (cs : List Char) : Option (Directive × List Char) :=
  let word := cs.takeWhile isNameChar
  let rest := cs.dropWhile isNameChar
  let value := rest.dropWhile isBlank
  if !endsWord rest then none
  else if word = "YAML".toList then readVersion? value
  else if word = "TAG".toList then readMeaning? value
  else none

/-- The versions whose documents can be read. -/
def isReadable (major minor : Nat) : Bool :=
  major = 1 && (minor = 1 || minor = 2)

/-- The handles after directives, given those so far and whether there was a version. There is one version
at most, and no handle may be explained twice. -/
def handles? : (versioned : Bool) → Tag.Handles → List Directive → Option Tag.Handles
  | _, handles, [] => some (handles ++ Tag.standardHandles)
  | versioned, handles, .version major minor :: rest =>
    if versioned || !isReadable major minor then none else handles? true handles rest
  | versioned, handles, .meaning handle start :: rest =>
    if (handles.lookup handle).isSome then none else handles? versioned (handles ++ [(handle, start)]) rest

end Directive

end Yaml
end RecordDirectory
