import RecordDirectory.Decimal.Literal
import RecordDirectory.Error
import RecordDirectory.Field
import RecordDirectory.Json.Printer
import RecordDirectory.Text.Blank
import RecordDirectory.Value

/-!
Typing: untyped input becomes typed values under the fields of a directory.

Every field is typed on its own from the input under its name, null counting as absent, and names that
no field has are never looked at. The fields are taken in order and the first failure is the answer; of
several fields with one name the last one's value is kept.

* Text takes any value. What is not a string is written as JSON, and the text is trimmed.
* A number takes JSON numbers and decimal literals, and only what a decimal holds exactly.
* A reference takes numbers, whose fraction is dropped, and texts of whole numbers within 64 bits.
-/

namespace RecordDirectory
namespace Typing

/-- The input of a field, if it is there and not null. -/
def input? (raw : RawValues) (field : String) : Option Json :=
  (raw.get? field).filter fun value => !value.isNull

def trimmedText : Json → String
  | .string s => Text.trim s
  | value => Text.trim value.text

def textValue (field : String) : Option Json → Except (Stop ValidationError) FieldValue
  | none => .error (.because (.fieldRequired field))
  | some value =>
    let text := trimmedText value
    if text.isEmpty then .error (.because (.fieldRequired field)) else .ok (.text text)

def wholeDecimal (n : Int) : Except Literal.Refusal Decimal :=
  match Decimal.ofParts? n 0 with
  | some d => .ok d
  | none => .error .inexact

/-- The decimal of an input value. A binary number counts as the decimal of its shortest text. -/
def decimalOf : Json → Except Literal.Refusal Decimal
  | .integer n => wholeDecimal n
  | .float x => Decimal.ofLiteral x.text
  | .string s => Decimal.ofLiteral (Text.trimChars s.toList)
  | .null | .bool _ | .array _ | .object _ => .error .inexact

def numberValue (field : String) : Option Json → Except (Stop ValidationError) FieldValue
  | none => .error (.because (.fieldMustBeNumber field))
  | some value =>
    match decimalOf value with
    | .ok d => .ok (.number d)
    | .error .inexact => .error (.because (.fieldMustBeNumber field))
    | .error .overflow => .error .overflow

def idOf? : Json → Option RecordId
  | .integer n => if Numeral.fitsSigned64 n then some ⟨n⟩ else none
  | .float x => if Numeral.fitsSigned64 x.truncate then some ⟨x.truncate⟩ else none
  | .string s => (Numeral.readSigned64? (Text.trimChars s.toList)).map RecordId.mk
  | .null | .bool _ | .array _ | .object _ => none

def referenceValue (field : String) : Option Json → Except (Stop ValidationError) FieldValue
  | none => .error (.because (.fieldRequired field))
  | some value =>
    match idOf? value with
    | some id => .ok (.reference id)
    | none => .error (.because (.fieldMustBeReference field))

/-- The value of one field. A reference field without a target is a fault of the definition, which is
found before the input is looked at. -/
def typeField (raw : RawValues) (field : FieldDefinition) : Except (Stop ValidationError) FieldValue :=
  let input := input? raw field.name
  match field.type with
  | .text => textValue field.name input
  | .number => numberValue field.name input
  | .reference =>
    if field.target.isNone then .error (.because (.fieldMisconfigured field.name))
    else referenceValue field.name input

/-- The values of several fields, in their order. -/
def typeFields (raw : RawValues) :
    List FieldDefinition → Except (Stop ValidationError) (List (String × FieldValue))
  | [] => .ok []
  | field :: rest =>
    match typeField raw field with
    | .error stop => .error stop
    | .ok value =>
      match typeFields raw rest with
      | .error stop => .error stop
      | .ok values => .ok ((field.name, value) :: values)

/-- Types the input under a list of fields. -/
def typeValues (fields : List FieldDefinition) (raw : RawValues) : Except (Stop ValidationError) Values :=
  (typeFields raw fields).map Keyed.ofList

/-- Whether typing the plain form of values gives the same values again; nothing where typing has no
answer. -/
def isStable? (fields : List FieldDefinition) (values : Values) : Option Bool :=
  match typeValues fields values.plain with
  | .ok again => some (again.same values)
  | .error (.because _) => some false
  | .error .overflow => none

end Typing
end RecordDirectory
