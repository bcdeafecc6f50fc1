import RecordDirectory.Error
import RecordDirectory.Page
import RecordDirectory.Text.Blank
import RecordDirectory.Text.Quoted

/-!
Settings: where the database is and how large pages may be.

Settings are read from variables (here) or from a document (`RecordDirectory.Settings.Document`), and
checked before they are used. Checked settings turn every requested page size into one between one and
the greatest.
-/

namespace RecordDirectory

/-- The settings of the store and of paging. -/
structure Settings where
  databaseUrl : Option String
  maxConnections : Nat
  /-- The page size that stands in for zero. -/
  defaultPageSize : Nat
  maxPageSize : Nat
deriving DecidableEq

/-- Why there are no settings, or no database. -/
inductive SettingsError where
  | missingDatabaseUrl
  | invalid (key value : String)
  /-- A document is malformed or does not describe settings. -/
  | malformed
deriving DecidableEq

namespace SettingsError

/-- The message of an error; a malformed document has none of its own. -/
def message? : SettingsError → Option String
  | missingDatabaseUrl => some "no database url configured; set UNIDIR_DATABASE_URL or DATABASE_URL"
  | invalid key value => some ("invalid value for " ++ key ++ ": " ++ Text.quote value)
  | malformed => none

end SettingsError

namespace Settings

/-- The settings that hold where nothing is set. -/
def standard : Settings where
  databaseUrl := none
  maxConnections := 5
  defaultPageSize := 20
  maxPageSize := 100

instance : Inhabited Settings := ⟨standard⟩

/-- Checks that there are connections, that pages are not empty, and that the greatest page size admits
the one that stands in for zero. -/
def checked (settings : Settings) : Except SettingsError Settings :=
  if settings.maxConnections = 0 then
    .error (.invalid "max_connections" (Numeral.text settings.maxConnections))
  else if settings.defaultPageSize = 0 then
    .error (.invalid "default_page_size" (Numeral.text settings.defaultPageSize))
  else if settings.maxPageSize < settings.defaultPageSize then
    .error (.invalid "max_page_size" (Numeral.text settings.maxPageSize))
  else
    .ok settings

/-- The value of a variable as a number within a bound; `otherwise` where the variable is not set. -/
def numberSetting (key : String) (fits : Nat → Bool) (otherwise : Nat) :
    Option String → Except SettingsError Nat
  | none => .ok otherwise
  | some value =>
    match (Numeral.readUnsigned? (Text.trimChars value.toList)).filter fits with
    | some n => .ok n
    | none => .error (.invalid key value)

/-- Reads settings from variables and checks them. The numbers are read in the order in which they are
given here, and the first that is none is the error. -/
def ofVariables (lookup : String → Option String) : Except SettingsError Settings := do
  let maxConnections ← numberSetting "max_connections" Numeral.fitsUnsigned32 standard.maxConnections
    (lookup "UNIDIR_MAX_CONNECTIONS")
  let defaultPageSize ← numberSetting "default_page_size" Numeral.fitsUnsigned64 standard.defaultPageSize
    (lookup "UNIDIR_DEFAULT_PAGE_SIZE")
  let maxPageSize ← numberSetting "max_page_size" Numeral.fitsUnsigned64 standard.maxPageSize
    (lookup "UNIDIR_MAX_PAGE_SIZE")
  checked
    { databaseUrl := (lookup "UNIDIR_DATABASE_URL").or (lookup "DATABASE_URL")
      maxConnections := maxConnections
      defaultPageSize := defaultPageSize
      maxPageSize := maxPageSize }

/-- The window that answers a request: zero results stand for the default page size, and more than the
greatest page size are cut down to it. -/
def pageRequest (settings : Settings) (offset limit : Nat) (sort : SortOrder) : PageRequest where
  offset := offset
  limit := if limit = 0 then settings.defaultPageSize else min limit settings.maxPageSize
  sort := sort

def database (settings : Settings) : Except SettingsError String :=
  match settings.databaseUrl with
  | some url => .ok url
  | none => .error .missingDatabaseUrl

end Settings

end RecordDirectory
