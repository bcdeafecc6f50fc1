import RecordDirectory.Field
import RecordDirectory.Predicate
import RecordDirectory.Text.Blank

/-!
The predicate of a search in a directory: a term is looked for in every field, without regard to case.
-/

namespace RecordDirectory
namespace Predicate

/-- The records in which some field holds the term. Without a term, with a blank one, and in a
directory without fields every record is found. The term is not trimmed. -/
def search (term : Option String) (fields : List FieldDefinition) : Predicate :=
  match term with
  | none => .always
  | some term =>
    if Text.isBlankText term || fields.isEmpty then .always
    else .any (fields.map fun field => .contains field.name (Text.foldCase term))

/-- The records of a directory in which some field holds the term. -/
def inDirectory (directory : DirectoryId) (term : Option String) (fields : List FieldDefinition) :
    Predicate :=
  (Predicate.directoryIs directory).and (search term fields)

end Predicate
end RecordDirectory
