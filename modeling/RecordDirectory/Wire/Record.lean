import RecordDirectory.Decimal.Stored
import RecordDirectory.Page
import RecordDirectory.Record
import RecordDirectory.Wire.Directory

/-!
The JSON forms of values, records and pages. A value is written with its kind, and a number as text.
-/

namespace RecordDirectory

def RecordId.toJson (id : RecordId) : Json :=
  .integer id.number

def RecordId.ofJson? (value : Json) : Option RecordId :=
  value.signed64?.map RecordId.mk

namespace FieldValue

def tagged (kind : String) (content : Json) : Json :=
  .object [("kind", .string kind), ("value", content)]

/-- A value as an object that names its kind. -/
def toJson : FieldValue → Json
  | text s => tagged "text" (.string s)
  | number d => tagged "number" (.string d.text)
  | reference id => tagged "reference" id.toJson

def ofContent? (kind : String) (content : Json) : Option FieldValue :=
  if kind = "text" then content.string?.map text
  else if kind = "number" then (content.string?.bind Decimal.read?).map number
  else if kind = "reference" then (RecordId.ofJson? content).map reference
  else none

def ofJson? (value : Json) : Option FieldValue := do
  let members ← Members.ofJson? 2 value
  let kind ← members.alternative? "kind" 0
  let content ← members.find? "value" 1
  ofContent? kind content

end FieldValue

namespace Values

/-- Values as an object with their fields' names. -/
def toJson (values : Values) : Json :=
  .object (values.mapValues FieldValue.toJson).entries

def ofMembers? : List (String × Json) → Option (List (String × FieldValue))
  | [] => some []
  | (name, value) :: rest =>
    match FieldValue.ofJson? value, ofMembers? rest with
    | some value, some values => some ((name, value) :: values)
    | _, _ => none

def ofJson? (value : Json) : Option Values :=
  (value.object?.bind ofMembers?).map Keyed.ofList

end Values

namespace RawValues

def toJson (raw : RawValues) : Json :=
  .object raw.entries

/-- Reads input values, which only an object can be. -/
def ofJson? (value : Json) : Option RawValues :=
  value.object?.map Keyed.ofList

end RawValues

namespace Record

def toJson (record : Record) : Json :=
  .object [("directory_id", record.directory.toJson), ("id", record.id.toJson),
    ("values", record.values.toJson)]

def ofJson? (value : Json) : Option Record := do
  let members ← Members.ofJson? 3 value
  let id ← members.required? "id" 0 RecordId.ofJson?
  let directory ← members.required? "directory_id" 1 DirectoryId.ofJson?
  let values ← members.required? "values" 2 Values.ofJson?
  some ⟨id, directory, values⟩

end Record

namespace SortOrder

def toJson : SortOrder → Json
  | ascending => .string "id_asc"
  | descending => .string "id_desc"

def ofName? (name : String) : Option SortOrder :=
  if name = "id_asc" then some ascending else if name = "id_desc" then some descending else none

/-- Reads an order, given as an alternative. -/
def ofJson? (value : Json) : Option SortOrder :=
  (value.alternative? Json.isNull).bind ofName?

end SortOrder

namespace PageRequest

def toJson (request : PageRequest) : Json :=
  .object [("limit", Json.ofNat request.limit), ("offset", Json.ofNat request.offset),
    ("sort", request.sort.toJson)]

/-- Reads a page request; the order that is left out is ascending. -/
def ofJson? (value : Json) : Option PageRequest := do
  let members ← Members.ofJson? 3 value
  let offset ← members.required? "offset" 0 Json.unsigned64?
  let limit ← members.required? "limit" 1 Json.unsigned64?
  let sort ← members.optional? "sort" 2 SortOrder.ofJson? .ascending
  some ⟨offset, limit, sort⟩

end PageRequest

namespace Page

def toJson (page : Page Record) : Json :=
  .object [("items", .array (page.items.map Record.toJson)), ("limit", Json.ofNat page.limit),
    ("offset", Json.ofNat page.offset), ("total", Json.ofNat page.total)]

def ofJson? (value : Json) : Option (Page Record) := do
  let members ← Members.ofJson? 4 value
  let items ← members.required? "items" 0 (Json.listOf? Record.ofJson?)
  let offset ← members.required? "offset" 1 Json.unsigned64?
  let limit ← members.required? "limit" 2 Json.unsigned64?
  let total ← members.required? "total" 3 Json.unsigned64?
  some ⟨items, offset, limit, total⟩

end Page

end RecordDirectory
