import RecordDirectory.Settings
import RecordDirectory.Yaml.Document

/-!
Settings from a YAML document.

The document is a mapping from the names of settings to values; a setting that is left out keeps its
standard value, names that are no setting do not count, and no setting may be given twice. A number is a
plain scalar in decimal, hexadecimal, octal or binary digits. The database is any scalar, and a plain
scalar that stands for null is none. An alias counts as the node that it refers to.
-/

namespace RecordDirectory
namespace Settings

open Yaml

/-- The value of a digit in any base up to sixteen. -/
def digitIn? (base : Nat) (c : Char) : Option Nat :=
  ((Hexadecimal.read? c).map Fin.val).filter (· < base)

/-- The number of digits in a base; there must be at least one. -/
def digitsIn? (base : Nat) (cs : List Char) : Option Nat :=
  if cs.isEmpty then none
  else (cs.mapM (digitIn? base)).map fun digits => digits.foldl (fun n d => n * base + d) 0

/-- The number of an unsigned literal. Zeros in front of decimal digits are not allowed. -/
def unsignedLiteral? : List Char → Option Nat
  | '0' :: 'x' :: digits => digitsIn? 16 digits
  | '0' :: 'o' :: digits => digitsIn? 8 digits
  | '0' :: 'b' :: digits => digitsIn? 2 digits
  | '0' :: _ :: _ => none
  | digits => digitsIn? 10 digits

/-- The number of a literal, which may start with a plus sign. -/
def literal? : List Char → Option Nat
  | '+' :: rest => unsignedLiteral? rest
  | cs => unsignedLiteral? cs

def numberTag : List Char :=
  "tag:yaml.org,2002:int".toList

def nullTag : List Char :=
  "tag:yaml.org,2002:null".toList

/-- Whether a scalar can be a number: a plain one can, and the unfolded lines that are tagged as one. -/
def isNumeric (scalar : Scalar) : Bool :=
  scalar.style = .plain || scalar.style = .literal && scalar.tag = some numberTag

/-- The number within a bound that a scalar stands for. -/
def numberOf? (fits : Nat → Bool) (scalar : Scalar) : Option Nat :=
  if isNumeric scalar then (literal? scalar.text.toList).filter fits else none

def isNullWord (text : String) : Bool :=
  text ∈ ["~", "null", "Null", "NULL"]

/-- The text that a scalar stands for, if it is not null. Only a plain scalar can be null: an empty one or
a word for null, unless it has a tag. A word that is tagged as null has to be one. -/
def textOf? (scalar : Scalar) : Option (Option String) :=
  if scalar.style = .plain then
    match scalar.tag with
    | none => some (if scalar.text.isEmpty || isNullWord scalar.text then none else some scalar.text)
    | some tag =>
      if tag = nullTag then if isNullWord scalar.text then some none else none
      else some (some scalar.text)
  else
    some (some scalar.text)

/-- The value of a setting in the entries of a mapping, read from its scalar. A setting that is given
twice is a fault. -/
def setting? {α : Type} (name : String) (read? : Scalar → Option α) (otherwise : α)
    (entries : List (String × Option Scalar)) : Option α :=
  match entries.filter (·.1 == name) with
  | [] => some otherwise
  | [(_, scalar)] => scalar.bind read?
  | _ => none

/-- The entries of a mapping under a root by their names, which are scalars, with the values that are
scalars too. -/
def namedEntries? (root : Node) : List (Node × Node) → Option (List (String × Option Scalar))
  | [] => some []
  | (key, value) :: rest => do
    let name ← root.scalar? key
    let entries ← namedEntries? root rest
    some ((name.text, root.scalar? value) :: entries)

/-- The settings that named entries give, unchecked. -/
def ofEntries? (entries : List (String × Option Scalar)) : Option Settings := do
  let databaseUrl ← setting? "database_url" textOf? standard.databaseUrl entries
  let maxConnections ← setting? "max_connections" (numberOf? Numeral.fitsUnsigned32)
    standard.maxConnections entries
  let defaultPageSize ← setting? "default_page_size" (numberOf? Numeral.fitsUnsigned64)
    standard.defaultPageSize entries
  let maxPageSize ← setting? "max_page_size" (numberOf? Numeral.fitsUnsigned64)
    standard.maxPageSize entries
  some ⟨databaseUrl, maxConnections, defaultPageSize, maxPageSize⟩

/-- The settings that a root gives, unchecked. A root that is left out is a mapping without entries, but
a null that is written is none. -/
def ofRoot? (root : Node) : Option Settings :=
  match root with
  | .mapping _ entries => (namedEntries? root entries).bind ofEntries?
  | .scalar _ scalar => if scalar.style = .plain && scalar.text.isEmpty then some standard else none
  | .sequence _ _ | .alias _ => none

/-- The settings that a document gives, unchecked. -/
def ofDocument? : Document → Option Settings
  | .empty => some standard
  | .root node => ofRoot? node

/-- Reads settings from a YAML text and checks them. -/
def ofYaml (text : String) : Except SettingsError Settings :=
  match (Document.read? text).bind ofDocument? with
  | some settings => settings.checked
  | none => .error .malformed

end Settings
end RecordDirectory
