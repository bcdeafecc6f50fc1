import RecordDirectory.Identity
import RecordDirectory.Text.Numeral

/-!
What can go wrong, by cause, and the message of each cause.

A validation error speaks about what a caller sent, except where a stored definition is itself broken
(`isInternal`). A store error comes from the storage, and a service passes both on beside the two
errors of its own. `Stop` adds the one way in which a computation gives no answer at all.
-/

namespace RecordDirectory

/-- A fault in a draft or in the values of a record. -/
inductive ValidationError where
  | blankName
  | blankFieldName (position : Nat)
  | duplicateFieldName (name : String)
  | missingTarget (field : String)
  | unexpectedTarget (field : String)
  | referenceNotFound (missing : List DirectoryId)
  | selfReference (directory : DirectoryId)
  | fieldRequired (field : String)
  | fieldMustBeNumber (field : String)
  | fieldMustBeReference (field : String)
  | fieldMisconfigured (field : String)
  | danglingReference (field : String) (record : RecordId)
  | referenceTypeMismatch (field : String) (record : RecordId) (actual expected : DirectoryId)
deriving DecidableEq, Inhabited

/-- A fault in the storage. -/
inductive StoreError where
  | notFound
  | alreadyExists
  /-- Stored content could not be decoded. -/
  | undecodable (detail : String)
  | internal (detail : String)
deriving DecidableEq, Inhabited

/-- Why a service refused or failed. -/
inductive ServiceError where
  | directoryNotFound (id : DirectoryId)
  | recordNotFound (id : RecordId)
  | validation (error : ValidationError)
  | store (error : StoreError)
deriving DecidableEq, Inhabited

/-- How a computation ends without a result: for a cause, or because a length or position is beyond 64
bits, in which case there is no answer. -/
inductive Stop (ε : Type) where
  | because (cause : ε)
  | overflow
deriving DecidableEq, Inhabited

namespace ValidationError

/-- Numbers with a comma and a blank between them. -/
def joinIds (ids : List DirectoryId) : String :=
  ", ".intercalate (ids.map fun id => Numeral.text id.number)

def message : ValidationError → String
  | blankName => "directory name must not be blank"
  | blankFieldName position => "field at position " ++ Numeral.text position ++ " must have a name"
  | duplicateFieldName name => "field name '" ++ name ++ "' is declared more than once"
  | missingTarget field => "field '" ++ field ++ "': directoryId is required for REFERENCE"
  | unexpectedTarget field => "field '" ++ field ++ "': directoryId must be absent unless type is REFERENCE"
  | referenceNotFound missing => "directories with ids [" ++ joinIds missing ++ "] do not exist"
  | selfReference directory => "directory " ++ Numeral.text directory.number ++ " cannot reference itself"
  | fieldRequired field => "field '" ++ field ++ "' must not be empty"
  | fieldMustBeNumber field => "field '" ++ field ++ "' must be a number"
  | fieldMustBeReference field => "field '" ++ field ++ "' must be a number (record id)"
  | fieldMisconfigured field => "field '" ++ field ++ "': directoryId is not set for REFERENCE"
  | danglingReference field record =>
    "invalid reference in field '" ++ field ++ "': record " ++ Numeral.text record.number ++ " not found"
  | referenceTypeMismatch field record actual expected =>
    "invalid reference in field '" ++ field ++ "': record " ++ Numeral.text record.number ++
      " belongs to directory " ++ Numeral.text actual.number ++ ", expected " ++ Numeral.text expected.number

/-- Whether the fault lies in a stored definition and not in what the caller sent. -/
def isInternal : ValidationError → Bool
  | fieldMisconfigured _ => true
  | _ => false

/-- The field that the error is about, where it is a single one with a name. -/
def field? : ValidationError → Option String
  | duplicateFieldName field | missingTarget field | unexpectedTarget field | fieldRequired field
  | fieldMustBeNumber field | fieldMustBeReference field | fieldMisconfigured field
  | danglingReference field _ | referenceTypeMismatch field _ _ _ => some field
  | blankName | blankFieldName _ | referenceNotFound _ | selfReference _ => none

end ValidationError

def StoreError.message : StoreError → String
  | notFound => "item not found in data store"
  | alreadyExists => "item already exists in data store"
  | undecodable detail => "serialization error: " ++ detail
  | internal detail => "internal error: " ++ detail

namespace ServiceError

def message : ServiceError → String
  | directoryNotFound id => "directory " ++ Numeral.text id.number ++ " not found"
  | recordNotFound id => "record " ++ Numeral.text id.number ++ " not found"
  | validation error => error.message
  | store error => error.message

/-- Whether the caller's input caused the error, or the state that the input named. -/
def isClientError : ServiceError → Bool
  | directoryNotFound _ | recordNotFound _ => true
  | validation error => !error.isInternal
  | store _ => false

end ServiceError

end RecordDirectory
