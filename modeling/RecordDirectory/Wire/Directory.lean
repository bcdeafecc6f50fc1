import RecordDirectory.Directory
import RecordDirectory.Wire.Members

/-!
The JSON forms of field definitions and directories.

Writing uses one form of each; reading takes the older names of field types and arrays as well, and
reads back what was written. In the form of a summary the members of the directory stand beside the
counts, and there the member of a field type's object may also be an object without members.
-/

namespace RecordDirectory

def DirectoryId.toJson (id : DirectoryId) : Json :=
  .integer id.number

def DirectoryId.ofJson? (value : Json) : Option DirectoryId :=
  value.signed64?.map DirectoryId.mk

def DirectoryCode.toJson (code : DirectoryCode) : Json :=
  .string code.text

def DirectoryCode.ofJson? (value : Json) : Option DirectoryCode :=
  value.string?.bind DirectoryCode.read?

def FieldType.toJson (type : FieldType) : Json :=
  .string type.name

/-- Reads a field type, given as an alternative. -/
def FieldType.ofJson? (empty : Json → Bool) (value : Json) : Option FieldType :=
  (value.alternative? empty).bind FieldType.ofName?

namespace FieldDefinition

/-- A field definition as an object; the target is left out where there is none. -/
def toJson (field : FieldDefinition) : Json :=
  let target := match field.target with
    | some id => [("directoryId", id.toJson)]
    | none => []
  .object (target ++ [("name", .string field.name), ("type", field.type.toJson)])

/-- Reads a field definition; a target that is null or left out is none. -/
def ofJson? (empty : Json → Bool) (value : Json) : Option FieldDefinition := do
  let members ← Members.ofJson? 3 value
  let name ← members.required? "name" 0 Json.string?
  let type ← members.required? "type" 1 (FieldType.ofJson? empty)
  let target ← members.optional? "directoryId" 2 (Json.nullable? DirectoryId.ofJson?) none
  some ⟨name, type, target⟩

/-- A list of field definitions as an array. -/
def listToJson (fields : List FieldDefinition) : Json :=
  .array (fields.map toJson)

def listOfJson? (value : Json) : Option (List FieldDefinition) :=
  value.listOf? (ofJson? Json.isNull)

end FieldDefinition

namespace DirectoryDraft

def toJson (draft : DirectoryDraft) : Json :=
  .object [("fields", FieldDefinition.listToJson draft.fields), ("name", .string draft.name)]

/-- Reads a draft; fields that are left out are none. -/
def ofJson? (value : Json) : Option DirectoryDraft := do
  let members ← Members.ofJson? 2 value
  let name ← members.required? "name" 0 Json.string?
  let fields ← members.optional? "fields" 1 FieldDefinition.listOfJson? []
  some ⟨name, fields⟩

end DirectoryDraft

namespace Directory

def toJson (directory : Directory) : Json :=
  .object [("code", directory.code.toJson), ("fields", FieldDefinition.listToJson directory.fields),
    ("id", directory.id.toJson), ("name", .string directory.name)]

def ofMembers? (empty : Json → Bool) (members : Members) : Option Directory := do
  let id ← members.required? "id" 0 DirectoryId.ofJson?
  let code ← members.required? "code" 1 DirectoryCode.ofJson?
  let name ← members.required? "name" 2 Json.string?
  let fields ← members.required? "fields" 3 (Json.listOf? (FieldDefinition.ofJson? empty))
  some ⟨id, code, name, fields⟩

def ofJson? (value : Json) : Option Directory :=
  (Members.ofJson? 4 value).bind (ofMembers? Json.isNull)

end Directory

namespace DirectorySummary

/-- A summary as an object, with the members of the directory beside the counts. -/
def toJson (summary : DirectorySummary) : Json :=
  .object [("code", summary.directory.code.toJson), ("field_count", Json.ofNat summary.fieldCount),
    ("fields", FieldDefinition.listToJson summary.directory.fields), ("id", summary.directory.id.toJson),
    ("name", .string summary.directory.name), ("record_count", Json.ofNat summary.recordCount)]

/-- Reads a summary, which only an object can be. -/
def ofJson? (value : Json) : Option DirectorySummary := do
  let members := Members.named (← value.object?)
  let directory ← Directory.ofMembers? Json.isNothing members
  let fieldCount ← members.required? "field_count" 4 Json.unsigned64?
  let recordCount ← members.required? "record_count" 5 Json.unsigned64?
  some ⟨directory, fieldCount, recordCount⟩

end DirectorySummary

end RecordDirectory
