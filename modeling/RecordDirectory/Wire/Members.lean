import RecordDirectory.Json
import RecordDirectory.Keyed
import RecordDirectory.Text.Numeral

/-!
Reading the parts of JSON forms.

A structure is given by its members' names or, in an array, by their positions. Either way unknown
parts beside the named ones do not count, but an array may not be longer than the structure. The name
of an alternative is a string, or the one member of an object that holds nothing.
-/

namespace RecordDirectory

/-- The members of a structure. -/
inductive Members where
  | named (members : List (String × Json))
  | listed (items : List Json)

namespace Members

/-- The members of a JSON value that stands for a structure with `width` members. -/
def ofJson? (width : Nat) : Json → Option Members
  | .object members => some (.named members)
  | .array items => if items.length ≤ width then some (.listed items) else none
  | _ => none

/-- The member with a name, which has a fixed position in an array. -/
def find? (name : String) (position : Nat) : Members → Option Json
  | .named members => Keyed.lookup name members
  | .listed items => items[position]?

def required? {α : Type} (members : Members) (name : String) (position : Nat) (read? : Json → Option α) :
    Option α :=
  (members.find? name position).bind read?

def optional? {α : Type} (members : Members) (name : String) (position : Nat) (read? : Json → Option α)
    (otherwise : α) : Option α :=
  match members.find? name position with
  | some value => read? value
  | none => some otherwise

end Members

namespace Json

/-- A whole number within 64 bits with a sign. -/
def signed64? (value : Json) : Option Int :=
  value.integer?.filter Numeral.fitsSigned64

/-- A whole number within 64 bits without a sign. -/
def unsigned64? (value : Json) : Option Nat :=
  value.integer?.bind fun n => if 0 ≤ n ∧ n < unsignedBound then some n.toNat else none

/-- A whole number within 32 bits without a sign. -/
def unsigned32? (value : Json) : Option Nat :=
  value.integer?.bind fun n => if 0 ≤ n ∧ n < shortBound then some n.toNat else none

def ofNat (n : Nat) : Json :=
  .integer n

def nullable? {α : Type} (read? : Json → Option α) (value : Json) : Option (Option α) :=
  if value.isNull then some none else (read? value).map some

def readAll? {α : Type} (read? : Json → Option α) : List Json → Option (List α)
  | [] => some []
  | item :: rest =>
    match read? item, readAll? read? rest with
    | some a, some as => some (a :: as)
    | _, _ => none

def listOf? {α : Type} (read? : Json → Option α) (value : Json) : Option (List α) :=
  value.array?.bind (readAll? read?)

/-- Whether a value is null or an object without members. -/
def isNothing : Json → Bool
  | .null | .object [] => true
  | _ => false

/-- The name of an alternative; `empty` says what the member of an object may hold. -/
def alternative? (empty : Json → Bool) : Json → Option String
  | .string name => some name
  | .object [(name, content)] => if empty content then some name else none
  | _ => none

end Json

/-- Reads the member that names an alternative. In an array only a string names one. -/
def Members.alternative? (name : String) (position : Nat) : Members → Option String
  | .named members => (Keyed.lookup name members).bind (Json.alternative? Json.isNull)
  | .listed items => items[position]?.bind Json.string?

end RecordDirectory
