import RecordDirectory.Json
import RecordDirectory.Keyed
import RecordDirectory.Text.Hexadecimal
import RecordDirectory.Text.Numeral

/-!
Reading JSON text.

The grammar is taken strictly: no comments, no leading zeros, no bare control characters, no half of a
surrogate pair on its own. Of several members with one name the last counts, and the members come out
in ascending order of their names. Arrays and objects may be nested `depthLimit` deep.

Every reader takes the characters that are left and gives back what it read with the characters after
it, or nothing where the text is malformed.
-/

namespace RecordDirectory
namespace Json

/-- The deepest nesting of arrays and objects. -/
def depthLimit : Nat := 127

/-- The blanks that may stand between the parts of a text. -/
def isSpace (c : Char) : Bool :=
  c = ' ' || c = '\n' || c = '\t' || c = '\r'

def skipSpace (cs : List Char) : List Char :=
  cs.dropWhile isSpace

/-- A code unit of four hexadecimal digits. -/
def readUnit? : List Char → Option (Nat × List Char)
  | a :: b :: c :: d :: rest => do
    let a ← Hexadecimal.read? a
    let b ← Hexadecimal.read? b
    let c ← Hexadecimal.read? c
    let d ← Hexadecimal.read? d
    some (((a.val * 16 + b.val) * 16 + c.val) * 16 + d.val, rest)
  | _ => none

/-- The character of an escape that is written with code units, two of them for a surrogate pair. -/
def readNumbered? (cs : List Char) : Option (Char × List Char) := do
  let (high, rest) ← readUnit? cs
  if 0xd800 ≤ high && high < 0xdc00 then
    match rest with
    | '\\' :: 'u' :: rest =>
      let (low, rest) ← readUnit? rest
      if 0xdc00 ≤ low && low < 0xe000 then
        some (Char.ofNat (0x10000 + (high - 0xd800) * 0x400 + (low - 0xdc00)), rest)
      else
        none
    | _ => none
  else if 0xdc00 ≤ high && high < 0xe000 then
    none
  else
    some (Char.ofNat high, rest)

/-- The character that a letter after a backslash stands for. -/
def escaped? : Char → Option Char
  | '"' => some '"'
  | '\\' => some '\\'
  | '/' => some '/'
  | 'b' => some '\x08'
  | 'f' => some '\x0c'
  | 'n' => some '\n'
  | 'r' => some '\r'
  | 't' => some '\t'
  | _ => none

/-- One character of a string, after its opening quote; nothing where the string ends or is broken. -/
def readCharacter? : List Char → Option (Char × List Char)
  | '\\' :: 'u' :: rest => readNumbered? rest
  | '\\' :: c :: rest => (escaped? c).map fun c => (c, rest)
  | c :: rest => if c = '"' || c = '\\' || c.toNat < 0x20 then none else some (c, rest)
  | [] => none

/-- The rest of a string after its opening quote. At most `fuel` characters are read. -/
def readStringRest : Nat → List Char → Option (List Char × List Char)
  | 0, _ => none
  | _ + 1, '"' :: rest => some ([], rest)
  | fuel + 1, cs => do
    let (c, rest) ← readCharacter? cs
    let (text, rest) ← readStringRest fuel rest
    some (c :: text, rest)

def readString? : List Char → Option (String × List Char)
  | '"' :: rest => (readStringRest (rest.length + 1) rest).map fun (text, rest) => (String.ofList text, rest)
  | _ => none

def spanDigits (cs : List Char) : List Char × List Char :=
  (cs.takeWhile Char.isDigit, cs.dropWhile Char.isDigit)

/-- The digits after a point, if a point comes next; at least one must follow it. -/
def readFraction? : List Char → Option (Option (List Char) × List Char)
  | '.' :: rest =>
    match spanDigits rest with
    | ([], _) => none
    | (digits, rest) => some (some digits, rest)
  | cs => some (none, cs)

/-- The exponent, if an `e` comes next; at least one digit must follow it. -/
def readExponent? : List Char → Option (Option Int × List Char)
  | c :: rest =>
    if c = 'e' || c = 'E' then
      let (signed, rest) : Bool × List Char := match rest with
        | '-' :: rest => (true, rest)
        | '+' :: rest => (false, rest)
        | rest => (false, rest)
      match spanDigits rest with
      | ([], _) => none
      | (digits, rest) =>
        let size : Int := Numeral.value digits
        some (some (if signed then -size else size), rest)
    else
      some (none, c :: rest)
  | [] => some (none, [])

/-- The number of a literal with the given parts: exact where it is a whole number that fits 64 bits,
and otherwise the nearest binary number, minus zero among them. -/
def numberOf? (negative : Bool) (whole : List Char) (fraction : Option (List Char))
    (exponent : Option Int) : Option Json :=
  let binary := (Binary64.ofDecimal? negative (Numeral.value (whole ++ fraction.getD []))
    (exponent.getD 0 - ((fraction.getD []).length : Int))).map Json.float
  if fraction.isNone && exponent.isNone then
    let size := Numeral.value whole
    if negative then
      if size ≠ 0 && size ≤ signedBound then some (.integer (-(size : Int))) else binary
    else if Numeral.fitsUnsigned64 size then some (.integer (size : Int))
    else binary
  else
    binary

/-- A number. Its whole part is a single zero or does not start with one. -/
def readNumber? (cs : List Char) : Option (Json × List Char) := do
  let (negative, rest) : Bool × List Char := match cs with
    | '-' :: rest => (true, rest)
    | rest => (false, rest)
  let (whole, rest) := spanDigits rest
  let wellFormed : Bool := match whole with
    | [] => false
    | '0' :: _ :: _ => false
    | _ => true
  if wellFormed then
    let (fraction, rest) ← readFraction? rest
    let (exponent, rest) ← readExponent? rest
    let number ← numberOf? negative whole fraction exponent
    some (number, rest)
  else
    none

/-- The text after a word that must come next. -/
def expect? : List Char → List Char → Option (List Char)
  | [], cs => some cs
  | c :: word, d :: cs => if c = d then expect? word cs else none
  | _ :: _, [] => none

/-- The items of an array after its opening bracket and up to its end, where there is at least one. -/
def readItems? (item : List Char → Option (Json × List Char)) :
    Nat → List Char → Option (List Json × List Char)
  | 0, _ => none
  | fuel + 1, cs => do
    let (value, rest) ← item cs
    match skipSpace rest with
    | ',' :: rest =>
      let (values, rest) ← readItems? item fuel rest
      some (value :: values, rest)
    | ']' :: rest => some ([value], rest)
    | _ => none

/-- One member of an object: a name, a colon and a value. -/
def readMember? (item : List Char → Option (Json × List Char)) (cs : List Char) :
    Option ((String × Json) × List Char) := do
  let (name, rest) ← readString? (skipSpace cs)
  match skipSpace rest with
  | ':' :: rest =>
    let (value, rest) ← item rest
    some ((name, value), rest)
  | _ => none

/-- The members of an object after its opening brace and up to its end, where there is at least one. -/
def readMembers? (item : List Char → Option (Json × List Char)) :
    Nat → List Char → Option (List (String × Json) × List Char)
  | 0, _ => none
  | fuel + 1, cs => do
    let (first, rest) ← readMember? item cs
    match skipSpace rest with
    | ',' :: rest =>
      let (members, rest) ← readMembers? item fuel rest
      some (first :: members, rest)
    | '\x7d' :: rest => some ([first], rest)
    | _ => none

/-- An object in which the last member of each name counts, in ascending order. -/
def objectOf (members : List (String × Json)) : Json :=
  .object (Keyed.ofList members).entries

/-- A value, after blanks; arrays and objects in it may be nested `depth` deep. -/
def readValue? : Nat → List Char → Option (Json × List Char)
  | depth, cs =>
    match skipSpace cs with
    | 'n' :: rest => (expect? "ull".toList rest).map fun rest => (.null, rest)
    | 't' :: rest => (expect? "rue".toList rest).map fun rest => (.bool true, rest)
    | 'f' :: rest => (expect? "alse".toList rest).map fun rest => (.bool false, rest)
    | '"' :: rest => (readString? ('"' :: rest)).map fun (s, rest) => (.string s, rest)
    | '[' :: rest =>
      match depth with
      | 0 => none
      | depth + 1 =>
        match skipSpace rest with
        | ']' :: rest => some (.array [], rest)
        | rest => (readItems? (readValue? depth) rest.length rest).map fun (items, rest) =>
            (.array items, rest)
    | '\x7b' :: rest =>
      match depth with
      | 0 => none
      | depth + 1 =>
        match skipSpace rest with
        | '\x7d' :: rest => some (.object [], rest)
        | rest => (readMembers? (readValue? depth) rest.length rest).map fun (members, rest) =>
            (objectOf members, rest)
    | rest => readNumber? rest

/-- The value that a text holds, with nothing but blanks around it. -/
def read? (text : String) : Option Json := do
  let (value, rest) ← readValue? depthLimit text.toList
  if (skipSpace rest).isEmpty then some value else none

end Json
end RecordDirectory
