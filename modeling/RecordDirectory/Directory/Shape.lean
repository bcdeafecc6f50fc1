import RecordDirectory.Directory
import RecordDirectory.Error
import RecordDirectory.Text.Blank

/-!
The shape of a draft: names that are not blank, field names that differ, and a target on exactly the
reference fields.

Checking a draft gives it back with all names trimmed. Whether the targets exist is not a matter of
shape. A fault of the directory's name comes before those of the fields, these are looked at from the
first to the last, and within a field a blank name comes before a repeated one and both before a wrong
target.
-/

namespace RecordDirectory
namespace DirectoryDraft

def trimmedField (field : FieldDefinition) : FieldDefinition :=
  { field with name := Text.trim field.name }

/-- The fault of a trimmed field at a position after fields with the names `earlier`. -/
def fieldFault? (position : Nat) (earlier : List String) (field : FieldDefinition) :
    Option ValidationError :=
  if field.name.isEmpty then some (.blankFieldName position)
  else if field.name ∈ earlier then some (.duplicateFieldName field.name)
  else
    match field.type, field.target with
    | .reference, none => some (.missingTarget field.name)
    | .text, some _ | .number, some _ => some (.unexpectedTarget field.name)
    | .reference, some _ | .text, none | .number, none => none

/-- Checks the fields from a position on and gives them back trimmed. -/
def checkFields (position : Nat) (earlier : List String) :
    List FieldDefinition → Except ValidationError (List FieldDefinition)
  | [] => .ok []
  | field :: rest =>
    let field := trimmedField field
    match fieldFault? position earlier field with
    | some fault => .error fault
    | none =>
      match checkFields (position + 1) (field.name :: earlier) rest with
      | .ok fields => .ok (field :: fields)
      | .error fault => .error fault

/-- Checks the shape of a draft and gives it back with its names trimmed. -/
def checkShape (draft : DirectoryDraft) : Except ValidationError DirectoryDraft :=
  let name := Text.trim draft.name
  if name.isEmpty then .error .blankName
  else
    match checkFields 0 [] draft.fields with
    | .ok fields => .ok ⟨name, fields⟩
    | .error fault => .error fault

end DirectoryDraft
end RecordDirectory
