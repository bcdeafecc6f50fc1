import RecordDirectory.Settings
import RecordDirectory.Wire.Members

/-!
The JSON form of settings. Every member may be left out; reading checks the types of the members and
nothing else.
-/

namespace RecordDirectory
namespace Settings

def toJson (settings : Settings) : Json :=
  let url := match settings.databaseUrl with
    | some url => Json.string url
    | none => Json.null
  .object [("database_url", url), ("default_page_size", Json.ofNat settings.defaultPageSize),
    ("max_connections", Json.ofNat settings.maxConnections),
    ("max_page_size", Json.ofNat settings.maxPageSize)]

def ofJson? (value : Json) : Option Settings := do
  let members ← Members.ofJson? 4 value
  let databaseUrl ← members.optional? "database_url" 0 (Json.nullable? Json.string?) standard.databaseUrl
  let maxConnections ← members.optional? "max_connections" 1 Json.unsigned32? standard.maxConnections
  let defaultPageSize ← members.optional? "default_page_size" 2 Json.unsigned64? standard.defaultPageSize
  let maxPageSize ← members.optional? "max_page_size" 3 Json.unsigned64? standard.maxPageSize
  some ⟨databaseUrl, maxConnections, defaultPageSize, maxPageSize⟩

end Settings
end RecordDirectory
