import RecordDirectory.Decimal
import RecordDirectory.Identity
import RecordDirectory.Json
import RecordDirectory.Keyed

/-!
Field values and the bags of them that records hold.

A value carries its own kind, so a record keeps its meaning when the fields of its directory change.
Numbers are equal by value and keep their scale in text.
-/

namespace RecordDirectory

/-- A typed value. -/
inductive FieldValue where
  | text (s : String)
  | number (d : Decimal)
  | reference (id : RecordId)
deriving DecidableEq, Inhabited

namespace FieldValue

/-- The text that a search looks at: a number has all places of its scale. -/
def projection : FieldValue → String
  | text s => s
  | number d => d.text
  | reference id => Numeral.text id.number

/-- The value without its kind; a number is given as text, so that it loses no digit. -/
def plain : FieldValue → Json
  | text s => .string s
  | number d => .string d.text
  | reference id => .integer id.number

/-- Equality of values, in which the scale of a number does not count. -/
def same : FieldValue → FieldValue → Bool
  | text s, text t => s == t
  | number d, number e => d.sameValue e
  | reference a, reference b => a == b
  | _, _ => false

end FieldValue

/-- Typed values under the names of their fields. -/
abbrev Values : Type := Keyed String FieldValue

/-- Input values under the names of their fields. -/
abbrev RawValues : Type := Keyed String Json

namespace Values

def plain (values : Values) : RawValues :=
  values.mapValues FieldValue.plain

/-- Equality of bags: the same names with values that are the same. -/
def same (a b : Values) : Bool :=
  a.size == b.size &&
    (a.entries.zip b.entries).all fun pair => pair.1.1 == pair.2.1 && pair.1.2.same pair.2.2

end Values

end RecordDirectory
