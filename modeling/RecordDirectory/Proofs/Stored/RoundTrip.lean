import RecordDirectory.Proofs.Json.Text
import RecordDirectory.Proofs.Stored.Forms
import RecordDirectory.Wire.Settings

namespace RecordDirectory

/-!
# All forms read back

Everything that is stored or sent has one written form, and reads back from it exactly: the text of the form
is read as a JSON value again, and that value as what was written.  Ids and counts have to fit the words that
they are kept in, and what is read always does.

Reading takes other forms as well.  A type may have its older name, members may be left out or given by their
positions, unknown ones may stand beside them, and a code may be written in other ways.  Whatever was read,
the form that it is then written in means the same.
-/

/-- The written form of everything that fits reads back, as a value and from its text.  What has been read
from any form is read again from its written form, in both ways. -/
structure RoundTrips {α : Type} (fits : α → Prop) (write : α → Json) (read? : Json → Option α) : Prop where
  value : ∀ x, fits x → read? (write x) = some x
  text : ∀ x, fits x → (Json.read? (write x).text).bind read? = some x
  value_again : ∀ json, (read? json).bind (fun x => read? (write x)) = read? json
  text_again : ∀ json, (read? json).bind (fun x => (Json.read? (write x).text).bind read?) = read? json

/-- It is enough that written forms are legible and read back, and that only what fits is read. -/
theorem RoundTrips.of_legible {α : Type} {fits : α → Prop} {write : α → Json} {read? : Json → Option α}
    (legible : ∀ x, fits x → Json.Legible Json.depthLimit (write x))
    (value : ∀ x, fits x → read? (write x) = some x) (fit : ∀ json x, read? json = some x → fits x) :
    RoundTrips fits write read? := by
  have text : ∀ x, fits x → (Json.read? (write x).text).bind read? = some x := by
    intro x fitting
    rw [Json.read?_text (legible x fitting), Option.bind_some, value x fitting]
  have again {reread? : α → Option α} (each : ∀ x, fits x → reread? x = some x) (json : Json) :
      (read? json).bind reread? = read? json := by
    cases read : read? json with
    | none => rfl
    | some x => exact each x (fit json x read)
  exact ⟨value, text, again value, again text⟩

/-! ## Parts of forms -/

namespace Json

theorem signed64?_integer {n : Int} (fits : Numeral.fitsSigned64 n = true) : (integer n).signed64? = some n :=
  Option.filter_some_pos fits

theorem fitsSigned64_of_signed64? {json : Json} {n : Int} (read : json.signed64? = some n) :
    Numeral.fitsSigned64 n = true :=
  (Option.filter_eq_some_iff.mp read).2

theorem string?_string (s : String) : (string s).string? = some s :=
  rfl

/-- A count reads back within any bound that it is below. -/
theorem within_ofNat {bound n : Nat} (fits : n < bound) :
    ((ofNat n).integer?.bind fun whole => if 0 ≤ whole ∧ whole < (bound : Int) then some whole.toNat else none) =
      some n := by
  rw [ofNat, integer?, Option.bind_some, if_pos ⟨Int.natCast_nonneg n, Int.ofNat_lt.mpr fits⟩, Int.toNat_natCast]

theorem lt_of_within {bound n : Nat} {json : Json}
    (read : (json.integer?.bind fun whole =>
      if 0 ≤ whole ∧ whole < (bound : Int) then some whole.toNat else none) = some n) : n < bound := by
  rcases Option.bind_eq_some_iff.mp read with ⟨whole, _, bounded⟩
  split at bounded
  · next bounds =>
    cases bounded
    omega
  · cases bounded

theorem unsigned64?_ofNat {n : Nat} (fits : n < unsignedBound) : (ofNat n).unsigned64? = some n :=
  within_ofNat fits

theorem lt_of_unsigned64? {json : Json} {n : Nat} (read : json.unsigned64? = some n) : n < unsignedBound :=
  lt_of_within read

theorem unsigned32?_ofNat {n : Nat} (fits : n < shortBound) : (ofNat n).unsigned32? = some n :=
  within_ofNat fits

theorem lt_of_unsigned32? {json : Json} {n : Nat} (read : json.unsigned32? = some n) : n < shortBound :=
  lt_of_within read

/-- Each item of a list has been read. -/
theorem read_of_mem_readAll? {α : Type} {read? : Json → Option α} {items : List Json} {as : List α}
    (read : readAll? read? items = some as) {a : α} (listed : a ∈ as) : ∃ json, read? json = some a := by
  induction items generalizing as with
  | nil =>
      cases read
      cases listed
  | cons item rest inductionHypothesis =>
      rw [readAll?] at read
      split at read
      · next first later itemRead restRead =>
        cases read
        rcases List.mem_cons.mp listed with rfl | behind
        · exact ⟨item, itemRead⟩
        · exact inductionHypothesis restRead behind
      · cases read

theorem read_of_mem_listOf? {α : Type} {read? : Json → Option α} {json : Json} {as : List α}
    (read : json.listOf? read? = some as) {a : α} (listed : a ∈ as) : ∃ json, read? json = some a := by
  rcases Option.bind_eq_some_iff.mp read with ⟨items, _, each⟩
  exact read_of_mem_readAll? each listed

/-- What is there has been read, if it may be null. -/
theorem read_of_nullable? {α : Type} {read? : Json → Option α} {json : Json} {a : α}
    (read : json.nullable? read? = some (some a)) : read? json = some a := by
  unfold nullable? at read
  split at read
  · cases read
  · simpa using read

end Json

namespace Members

variable {α : Type} {members : Members} {name : String} {position : Nat} {read? : Json → Option α}

theorem required?_of_find? {json : Json} {a : α} (found : members.find? name position = some json)
    (read : read? json = some a) : members.required? name position read? = some a := by
  rw [required?, found, Option.bind_some, read]

theorem optional?_of_find? {json : Json} {a otherwise : α} (found : members.find? name position = some json)
    (read : read? json = some a) : members.optional? name position read? otherwise = some a := by
  simp only [optional?, found, read]

theorem read_of_required? {a : α} (read : members.required? name position read? = some a) :
    ∃ json, read? json = some a := by
  rcases Option.bind_eq_some_iff.mp read with ⟨json, _, found⟩
  exact ⟨json, found⟩

theorem read_of_optional? {a otherwise : α} (read : members.optional? name position read? otherwise = some a) :
    (∃ json, read? json = some a) ∨ a = otherwise := by
  unfold optional? at read
  split at read
  · next json _ => exact .inl ⟨json, read⟩
  · exact .inr (Option.some.inj read).symm

end Members

/-! ## What fits -/

theorem Json.legible_of_fitsSigned64 {depth : Nat} {n : Int} (fits : Numeral.fitsSigned64 n = true) :
    Json.Legible depth (.integer n) := by
  rw [Numeral.fitsSigned64_iff] at fits
  have wider : (signedBound : Int) ≤ unsignedBound := by decide
  exact .integer ⟨fits.1, Int.lt_of_lt_of_le fits.2 wider⟩

theorem Json.legible_ofNat {depth n : Nat} (fits : n < unsignedBound) : Json.Legible depth (ofNat n) := by
  have bounded : -(signedBound : Int) ≤ n := by omega
  exact .integer ⟨bounded, Int.ofNat_lt.mpr fits⟩

namespace DirectoryId

theorem ofJson?_toJson {id : DirectoryId} (fits : Numeral.fitsSigned64 id.number = true) :
    ofJson? id.toJson = some id := by
  rw [ofJson?, toJson, Json.signed64?_integer fits]
  rfl

theorem fits_of_ofJson? {json : Json} {id : DirectoryId} (read : ofJson? json = some id) :
    Numeral.fitsSigned64 id.number = true := by
  rcases Option.map_eq_some_iff.mp read with ⟨number, found, rfl⟩
  exact Json.fitsSigned64_of_signed64? found

theorem legible_toJson {depth : Nat} {id : DirectoryId} (fits : Numeral.fitsSigned64 id.number = true) :
    Json.Legible depth id.toJson :=
  Json.legible_of_fitsSigned64 fits

end DirectoryId

namespace RecordId

theorem ofJson?_toJson {id : RecordId} (fits : Numeral.fitsSigned64 id.number = true) :
    ofJson? id.toJson = some id := by
  rw [ofJson?, toJson, Json.signed64?_integer fits]
  rfl

theorem fits_of_ofJson? {json : Json} {id : RecordId} (read : ofJson? json = some id) :
    Numeral.fitsSigned64 id.number = true := by
  rcases Option.map_eq_some_iff.mp read with ⟨number, found, rfl⟩
  exact Json.fitsSigned64_of_signed64? found

theorem legible_toJson {depth : Nat} {id : RecordId} (fits : Numeral.fitsSigned64 id.number = true) :
    Json.Legible depth id.toJson :=
  Json.legible_of_fitsSigned64 fits

end RecordId

theorem DirectoryCode.ofJson?_toJson (code : DirectoryCode) : ofJson? code.toJson = some code := by
  rw [ofJson?, toJson, Json.string?_string, Option.bind_some, read?_text]

/-- The targets of all fields are ids of 64 bits. -/
def DirectoryDraft.Fits (draft : DirectoryDraft) : Prop :=
  ∀ field ∈ draft.fields, field.TargetFits

structure Directory.Fits (directory : Directory) : Prop where
  id : Numeral.fitsSigned64 directory.id.number = true
  fields : ∀ field ∈ directory.fields, field.TargetFits

structure DirectorySummary.Fits (summary : DirectorySummary) : Prop where
  directory : summary.directory.Fits
  fieldCount : summary.fieldCount < unsignedBound
  recordCount : summary.recordCount < unsignedBound

structure Record.Fits (record : Record) : Prop where
  id : Numeral.fitsSigned64 record.id.number = true
  directory : Numeral.fitsSigned64 record.directory.number = true
  values : record.values.Fits

structure PageRequest.Fits (request : PageRequest) : Prop where
  offset : request.offset < unsignedBound
  limit : request.limit < unsignedBound

structure Page.Fits (page : Page Record) : Prop where
  items : ∀ record ∈ page.items, record.Fits
  offset : page.offset < unsignedBound
  limit : page.limit < unsignedBound
  total : page.total < unsignedBound

structure Settings.Fits (settings : Settings) : Prop where
  maxConnections : settings.maxConnections < shortBound
  defaultPageSize : settings.defaultPageSize < unsignedBound
  maxPageSize : settings.maxPageSize < unsignedBound

/-! ## Field definitions and directories -/

namespace FieldDefinition

theorem targetFits_of_ofJson? {empty : Json → Bool} {json : Json} {field : FieldDefinition}
    (read : ofJson? empty json = some field) : field.TargetFits := by
  simp only [ofJson?, Option.bind_eq_bind, Option.bind_eq_some_iff, Option.some.injEq] at read
  rcases read with ⟨members, _, name, _, type, _, target, found, rfl⟩
  rintro id rfl
  rcases Members.read_of_optional? found with ⟨value, present⟩ | absent
  · exact DirectoryId.fits_of_ofJson? (Json.read_of_nullable? present)
  · cases absent

theorem targetsFit_of_listOf? {empty : Json → Bool} {json : Json} {fields : List FieldDefinition}
    (read : Json.listOf? (ofJson? empty) json = some fields) : ∀ field ∈ fields, field.TargetFits := by
  intro field listed
  rcases Json.read_of_mem_listOf? read listed with ⟨item, found⟩
  exact targetFits_of_ofJson? found

theorem legible_toJson {depth : Nat} {field : FieldDefinition} (fits : field.TargetFits) :
    Json.Legible (depth + 1) field.toJson := by
  rcases field with ⟨name, type, target⟩
  have nameLegible : Json.Legible depth (.string name) := .string name
  have typeLegible : Json.Legible depth type.toJson := .string type.name
  cases target with
  | none =>
      refine .object (show ["name", "type"].Pairwise _ by decide) ?_
      simpa using ⟨nameLegible, typeLegible⟩
  | some id =>
      have idLegible : Json.Legible depth id.toJson := DirectoryId.legible_toJson (fits id rfl)
      refine .object (show ["directoryId", "name", "type"].Pairwise _ by decide) ?_
      simpa using ⟨idLegible, nameLegible, typeLegible⟩

theorem legible_listToJson {depth : Nat} {fields : List FieldDefinition}
    (fits : ∀ field ∈ fields, field.TargetFits) : Json.Legible (depth + 2) (listToJson fields) := by
  refine .array fun item listed => ?_
  rcases List.mem_map.mp listed with ⟨field, member, rfl⟩
  exact legible_toJson (fits field member)

theorem roundTrips : RoundTrips TargetFits toJson (ofJson? Json.isNull) :=
  .of_legible (fun _ fits => legible_toJson fits) (fun _ fits => ofJson?_toJson fits Json.isNull)
    fun _ _ read => targetFits_of_ofJson? read

end FieldDefinition

namespace DirectoryDraft

theorem ofJson?_toJson {draft : DirectoryDraft} (fits : draft.Fits) : ofJson? draft.toJson = some draft := by
  have members : ∃ members, Members.ofJson? 2 draft.toJson = some members ∧
      members.find? "name" 0 = some (.string draft.name) ∧
      members.find? "fields" 1 = some (FieldDefinition.listToJson draft.fields) := ⟨_, rfl, rfl, rfl⟩
  rcases members with ⟨members, object, name, fields⟩
  simp only [ofJson?, object, Option.bind_eq_bind, Option.bind_some,
    Members.required?_of_find? name (Json.string?_string _),
    Members.optional?_of_find? fields (FieldDefinition.listOfJson?_listToJson fits)]

/-- Fields that are left out are none, and so they fit. -/
theorem fits_of_ofJson? {json : Json} {draft : DirectoryDraft} (read : ofJson? json = some draft) :
    draft.Fits := by
  simp only [ofJson?, Option.bind_eq_bind, Option.bind_eq_some_iff, Option.some.injEq] at read
  rcases read with ⟨members, _, name, _, fields, found, rfl⟩
  rcases Members.read_of_optional? found with ⟨value, present⟩ | rfl
  · exact FieldDefinition.targetsFit_of_listOf? present
  · exact fun field listed => absurd listed List.not_mem_nil

theorem legible_toJson {depth : Nat} {draft : DirectoryDraft} (fits : draft.Fits) :
    Json.Legible (depth + 3) draft.toJson := by
  have fields : Json.Legible (depth + 2) (FieldDefinition.listToJson draft.fields) :=
    FieldDefinition.legible_listToJson fits
  have name : Json.Legible (depth + 2) (.string draft.name) := .string draft.name
  refine .object (show ["fields", "name"].Pairwise _ by decide) ?_
  simpa using ⟨fields, name⟩

theorem roundTrips : RoundTrips Fits toJson ofJson? :=
  .of_legible (fun _ => legible_toJson) (fun _ => ofJson?_toJson) fun _ _ => fits_of_ofJson?

end DirectoryDraft

namespace Directory

/-- The members of a directory read back wherever they stand. -/
theorem ofMembers?_of_find? {members : Members} {directory : Directory} (fits : directory.Fits)
    (empty : Json → Bool) (id : members.find? "id" 0 = some directory.id.toJson)
    (code : members.find? "code" 1 = some directory.code.toJson)
    (name : members.find? "name" 2 = some (.string directory.name))
    (fields : members.find? "fields" 3 = some (FieldDefinition.listToJson directory.fields)) :
    ofMembers? empty members = some directory := by
  simp only [ofMembers?, Option.bind_eq_bind, Option.bind_some,
    Members.required?_of_find? id (DirectoryId.ofJson?_toJson fits.id),
    Members.required?_of_find? code directory.code.ofJson?_toJson,
    Members.required?_of_find? name (Json.string?_string _),
    Members.required?_of_find? fields (FieldDefinition.listOf?_listToJson fits.fields empty)]

theorem ofJson?_toJson {directory : Directory} (fits : directory.Fits) :
    ofJson? directory.toJson = some directory :=
  ofMembers?_of_find? fits Json.isNull rfl rfl rfl rfl

theorem fits_of_ofMembers? {empty : Json → Bool} {members : Members} {directory : Directory}
    (read : ofMembers? empty members = some directory) : directory.Fits := by
  simp only [ofMembers?, Option.bind_eq_bind, Option.bind_eq_some_iff, Option.some.injEq] at read
  rcases read with ⟨id, idFound, code, _, name, _, fields, fieldsFound, rfl⟩
  rcases Members.read_of_required? idFound with ⟨idValue, idRead⟩
  rcases Members.read_of_required? fieldsFound with ⟨fieldsValue, fieldsRead⟩
  exact ⟨DirectoryId.fits_of_ofJson? idRead, FieldDefinition.targetsFit_of_listOf? fieldsRead⟩

theorem fits_of_ofJson? {json : Json} {directory : Directory} (read : ofJson? json = some directory) :
    directory.Fits := by
  rcases Option.bind_eq_some_iff.mp read with ⟨members, _, found⟩
  exact fits_of_ofMembers? found

theorem legible_toJson {depth : Nat} {directory : Directory} (fits : directory.Fits) :
    Json.Legible (depth + 3) directory.toJson := by
  have code : Json.Legible (depth + 2) directory.code.toJson := .string directory.code.text
  have fields : Json.Legible (depth + 2) (FieldDefinition.listToJson directory.fields) :=
    FieldDefinition.legible_listToJson fits.fields
  have id : Json.Legible (depth + 2) directory.id.toJson := DirectoryId.legible_toJson fits.id
  have name : Json.Legible (depth + 2) (.string directory.name) := .string directory.name
  refine .object (show ["code", "fields", "id", "name"].Pairwise _ by decide) ?_
  simpa using ⟨code, fields, id, name⟩

theorem roundTrips : RoundTrips Fits toJson ofJson? :=
  .of_legible (fun _ => legible_toJson) (fun _ => ofJson?_toJson) fun _ _ => fits_of_ofJson?

end Directory

namespace DirectorySummary

theorem ofJson?_toJson {summary : DirectorySummary} (fits : summary.Fits) :
    ofJson? summary.toJson = some summary := by
  -- The members of the directory stand among those of the summary, and both are read from the same ones.
  have members : ∃ members, summary.toJson.object? = some members ∧
      Directory.ofMembers? Json.isNothing (.named members) = some summary.directory ∧
      Members.find? "field_count" 4 (.named members) = some (Json.ofNat summary.fieldCount) ∧
      Members.find? "record_count" 5 (.named members) = some (Json.ofNat summary.recordCount) :=
    ⟨_, rfl, Directory.ofMembers?_of_find? fits.directory Json.isNothing rfl rfl rfl rfl, rfl, rfl⟩
  rcases members with ⟨members, object, directory, fieldCount, recordCount⟩
  simp only [ofJson?, object, directory, Option.bind_eq_bind, Option.bind_some,
    Members.required?_of_find? fieldCount (Json.unsigned64?_ofNat fits.fieldCount),
    Members.required?_of_find? recordCount (Json.unsigned64?_ofNat fits.recordCount)]

theorem fits_of_ofJson? {json : Json} {summary : DirectorySummary} (read : ofJson? json = some summary) :
    summary.Fits := by
  simp only [ofJson?, Option.bind_eq_bind, Option.bind_eq_some_iff, Option.some.injEq] at read
  rcases read with ⟨members, _, directory, found, fieldCount, fieldsCounted, recordCount, recordsCounted, rfl⟩
  rcases Members.read_of_required? fieldsCounted with ⟨fieldValue, fieldRead⟩
  rcases Members.read_of_required? recordsCounted with ⟨recordValue, recordRead⟩
  exact ⟨Directory.fits_of_ofMembers? found, Json.lt_of_unsigned64? fieldRead, Json.lt_of_unsigned64? recordRead⟩

theorem legible_toJson {depth : Nat} {summary : DirectorySummary} (fits : summary.Fits) :
    Json.Legible (depth + 3) summary.toJson := by
  have code : Json.Legible (depth + 2) summary.directory.code.toJson := .string summary.directory.code.text
  have fieldCount : Json.Legible (depth + 2) (Json.ofNat summary.fieldCount) := Json.legible_ofNat fits.fieldCount
  have fields : Json.Legible (depth + 2) (FieldDefinition.listToJson summary.directory.fields) :=
    FieldDefinition.legible_listToJson fits.directory.fields
  have id : Json.Legible (depth + 2) summary.directory.id.toJson :=
    DirectoryId.legible_toJson fits.directory.id
  have name : Json.Legible (depth + 2) (.string summary.directory.name) := .string summary.directory.name
  have recordCount : Json.Legible (depth + 2) (Json.ofNat summary.recordCount) :=
    Json.legible_ofNat fits.recordCount
  refine .object (show ["code", "field_count", "fields", "id", "name", "record_count"].Pairwise _ by decide) ?_
  simpa using ⟨code, fieldCount, fields, id, name, recordCount⟩

theorem roundTrips : RoundTrips Fits toJson ofJson? :=
  .of_legible (fun _ => legible_toJson) (fun _ => ofJson?_toJson) fun _ _ => fits_of_ofJson?

end DirectorySummary

/-! ## Values, records and pages -/

namespace FieldValue

theorem fits_of_ofJson? {json : Json} {value : FieldValue} (read : ofJson? json = some value) : value.Fits := by
  simp only [ofJson?, Option.bind_eq_bind, Option.bind_eq_some_iff] at read
  rcases read with ⟨members, _, kind, _, content, _, found⟩
  cases value with
  | text | number => trivial
  | reference id =>
      unfold ofContent? at found
      split at found
      · rcases Option.map_eq_some_iff.mp found with ⟨_, _, other⟩
        cases other
      · split at found
        · rcases Option.map_eq_some_iff.mp found with ⟨_, _, other⟩
          cases other
        · split at found
          · rcases Option.map_eq_some_iff.mp found with ⟨read, idRead, same⟩
            cases same
            exact RecordId.fits_of_ofJson? idRead
          · cases found

theorem legible_toJson {depth : Nat} {value : FieldValue} (fits : value.Fits) :
    Json.Legible (depth + 1) value.toJson := by
  have tagged (kind : String) {content : Json} (legible : Json.Legible depth content) :
      Json.Legible (depth + 1) (tagged kind content) := by
    have named : Json.Legible depth (.string kind) := .string kind
    refine .object (show ["kind", "value"].Pairwise _ by decide) ?_
    simpa using ⟨named, legible⟩
  cases value with
  | text s => exact tagged "text" (.string s)
  | number d => exact tagged "number" (.string d.text)
  | reference id => exact tagged "reference" (RecordId.legible_toJson fits)

theorem roundTrips : RoundTrips Fits toJson ofJson? :=
  .of_legible (fun _ => legible_toJson) (fun _ => ofJson?_toJson) fun _ _ => fits_of_ofJson?

end FieldValue

namespace Values

theorem fits_of_ofMembers? {members : List (String × Json)} {entries : List (String × FieldValue)}
    (read : ofMembers? members = some entries) : ∀ entry ∈ entries, entry.2.Fits := by
  induction members generalizing entries with
  | nil =>
      cases read
      exact fun entry listed => absurd listed List.not_mem_nil
  | cons member rest inductionHypothesis =>
      rw [ofMembers?] at read
      split at read
      · next value others valueRead restRead =>
        cases read
        exact List.forall_mem_cons.mpr ⟨FieldValue.fits_of_ofJson? valueRead, inductionHypothesis restRead⟩
      · cases read

theorem fits_of_ofJson? {json : Json} {values : Values} (read : ofJson? json = some values) : values.Fits := by
  rcases Option.map_eq_some_iff.mp read with ⟨entries, found, rfl⟩
  rcases Option.bind_eq_some_iff.mp found with ⟨members, _, each⟩
  intro name value held
  rcases Keyed.last_of_get?_ofList held with ⟨before, after, split, _⟩
  exact fits_of_ofMembers? each (name, value) (split ▸ List.mem_append_right before List.mem_cons_self)

theorem legible_toJson {depth : Nat} {values : Values} (fits : values.Fits) :
    Json.Legible (depth + 2) values.toJson := by
  refine .object (values.mapValues FieldValue.toJson).keys_ascending fun member listed => ?_
  rcases List.mem_map.mp listed with ⟨entry, held, rfl⟩
  exact FieldValue.legible_toJson (fits entry.1 entry.2 (Keyed.mem_entries_iff.mp held))

theorem roundTrips : RoundTrips Fits toJson ofJson? :=
  .of_legible (fun _ => legible_toJson) (fun _ => ofJson?_toJson) fun _ _ => fits_of_ofJson?

end Values

namespace Record

theorem ofJson?_toJson {record : Record} (fits : record.Fits) : ofJson? record.toJson = some record := by
  have members : ∃ members, Members.ofJson? 3 record.toJson = some members ∧
      members.find? "id" 0 = some record.id.toJson ∧
      members.find? "directory_id" 1 = some record.directory.toJson ∧
      members.find? "values" 2 = some record.values.toJson := ⟨_, rfl, rfl, rfl, rfl⟩
  rcases members with ⟨members, object, id, directory, values⟩
  simp only [ofJson?, object, Option.bind_eq_bind, Option.bind_some,
    Members.required?_of_find? id (RecordId.ofJson?_toJson fits.id),
    Members.required?_of_find? directory (DirectoryId.ofJson?_toJson fits.directory),
    Members.required?_of_find? values (Values.ofJson?_toJson fits.values)]

theorem fits_of_ofJson? {json : Json} {record : Record} (read : ofJson? json = some record) : record.Fits := by
  simp only [ofJson?, Option.bind_eq_bind, Option.bind_eq_some_iff, Option.some.injEq] at read
  rcases read with ⟨members, _, id, idFound, directory, directoryFound, values, valuesFound, rfl⟩
  rcases Members.read_of_required? idFound with ⟨idValue, idRead⟩
  rcases Members.read_of_required? directoryFound with ⟨directoryValue, directoryRead⟩
  rcases Members.read_of_required? valuesFound with ⟨valuesValue, valuesRead⟩
  exact ⟨RecordId.fits_of_ofJson? idRead, DirectoryId.fits_of_ofJson? directoryRead,
    Values.fits_of_ofJson? valuesRead⟩

theorem legible_toJson {depth : Nat} {record : Record} (fits : record.Fits) :
    Json.Legible (depth + 3) record.toJson := by
  have directory : Json.Legible (depth + 2) record.directory.toJson := DirectoryId.legible_toJson fits.directory
  have id : Json.Legible (depth + 2) record.id.toJson := RecordId.legible_toJson fits.id
  have values : Json.Legible (depth + 2) record.values.toJson := Values.legible_toJson fits.values
  refine .object (show ["directory_id", "id", "values"].Pairwise _ by decide) ?_
  simpa using ⟨directory, id, values⟩

theorem roundTrips : RoundTrips Fits toJson ofJson? :=
  .of_legible (fun _ => legible_toJson) (fun _ => ofJson?_toJson) fun _ _ => fits_of_ofJson?

end Record

namespace SortOrder

theorem ofJson?_toJson (order : SortOrder) : ofJson? order.toJson = some order := by
  cases order <;> rfl

theorem legible_toJson {depth : Nat} (order : SortOrder) : Json.Legible depth order.toJson := by
  cases order <;> exact .string _

theorem roundTrips : RoundTrips (fun _ => True) toJson ofJson? :=
  .of_legible (fun order _ => order.legible_toJson) (fun order _ => order.ofJson?_toJson) fun _ _ _ => trivial

end SortOrder

namespace PageRequest

theorem ofJson?_toJson {request : PageRequest} (fits : request.Fits) :
    ofJson? request.toJson = some request := by
  have members : ∃ members, Members.ofJson? 3 request.toJson = some members ∧
      members.find? "offset" 0 = some (Json.ofNat request.offset) ∧
      members.find? "limit" 1 = some (Json.ofNat request.limit) ∧
      members.find? "sort" 2 = some request.sort.toJson := ⟨_, rfl, rfl, rfl, rfl⟩
  rcases members with ⟨members, object, offset, limit, sort⟩
  simp only [ofJson?, object, Option.bind_eq_bind, Option.bind_some,
    Members.required?_of_find? offset (Json.unsigned64?_ofNat fits.offset),
    Members.required?_of_find? limit (Json.unsigned64?_ofNat fits.limit),
    Members.optional?_of_find? sort request.sort.ofJson?_toJson]

theorem fits_of_ofJson? {json : Json} {request : PageRequest} (read : ofJson? json = some request) :
    request.Fits := by
  simp only [ofJson?, Option.bind_eq_bind, Option.bind_eq_some_iff, Option.some.injEq] at read
  rcases read with ⟨members, _, offset, offsetFound, limit, limitFound, sort, _, rfl⟩
  rcases Members.read_of_required? offsetFound with ⟨offsetValue, offsetRead⟩
  rcases Members.read_of_required? limitFound with ⟨limitValue, limitRead⟩
  exact ⟨Json.lt_of_unsigned64? offsetRead, Json.lt_of_unsigned64? limitRead⟩

theorem legible_toJson {depth : Nat} {request : PageRequest} (fits : request.Fits) :
    Json.Legible (depth + 1) request.toJson := by
  have limit : Json.Legible depth (Json.ofNat request.limit) := Json.legible_ofNat fits.limit
  have offset : Json.Legible depth (Json.ofNat request.offset) := Json.legible_ofNat fits.offset
  have sort : Json.Legible depth request.sort.toJson := request.sort.legible_toJson
  refine .object (show ["limit", "offset", "sort"].Pairwise _ by decide) ?_
  simpa using ⟨limit, offset, sort⟩

theorem roundTrips : RoundTrips Fits toJson ofJson? :=
  .of_legible (fun _ => legible_toJson) (fun _ => ofJson?_toJson) fun _ _ => fits_of_ofJson?

end PageRequest

namespace Page

theorem ofJson?_toJson {page : Page Record} (fits : page.Fits) : ofJson? page.toJson = some page := by
  have items : Json.listOf? Record.ofJson? (.array (page.items.map Record.toJson)) = some page.items :=
    Json.readAll?_map fun record listed => Record.ofJson?_toJson (fits.items record listed)
  have members : ∃ members, Members.ofJson? 4 page.toJson = some members ∧
      members.find? "items" 0 = some (.array (page.items.map Record.toJson)) ∧
      members.find? "offset" 1 = some (Json.ofNat page.offset) ∧
      members.find? "limit" 2 = some (Json.ofNat page.limit) ∧
      members.find? "total" 3 = some (Json.ofNat page.total) := ⟨_, rfl, rfl, rfl, rfl, rfl⟩
  rcases members with ⟨members, object, listed, offset, limit, total⟩
  simp only [ofJson?, object, Option.bind_eq_bind, Option.bind_some, Members.required?_of_find? listed items,
    Members.required?_of_find? offset (Json.unsigned64?_ofNat fits.offset),
    Members.required?_of_find? limit (Json.unsigned64?_ofNat fits.limit),
    Members.required?_of_find? total (Json.unsigned64?_ofNat fits.total)]

theorem fits_of_ofJson? {json : Json} {page : Page Record} (read : ofJson? json = some page) : page.Fits := by
  simp only [ofJson?, Option.bind_eq_bind, Option.bind_eq_some_iff, Option.some.injEq] at read
  rcases read with ⟨members, _, items, itemsFound, offset, offsetFound, limit, limitFound, total, totalFound, rfl⟩
  rcases Members.read_of_required? itemsFound with ⟨itemsValue, itemsRead⟩
  rcases Members.read_of_required? offsetFound with ⟨offsetValue, offsetRead⟩
  rcases Members.read_of_required? limitFound with ⟨limitValue, limitRead⟩
  rcases Members.read_of_required? totalFound with ⟨totalValue, totalRead⟩
  refine ⟨fun record listed => ?_, Json.lt_of_unsigned64? offsetRead, Json.lt_of_unsigned64? limitRead,
    Json.lt_of_unsigned64? totalRead⟩
  rcases Json.read_of_mem_listOf? itemsRead listed with ⟨item, found⟩
  exact Record.fits_of_ofJson? found

theorem legible_toJson {depth : Nat} {page : Page Record} (fits : page.Fits) :
    Json.Legible (depth + 5) page.toJson := by
  have items : Json.Legible (depth + 4) (.array (page.items.map Record.toJson)) := by
    refine .array fun item listed => ?_
    rcases List.mem_map.mp listed with ⟨record, member, rfl⟩
    exact Record.legible_toJson (fits.items record member)
  have limit : Json.Legible (depth + 4) (Json.ofNat page.limit) := Json.legible_ofNat fits.limit
  have offset : Json.Legible (depth + 4) (Json.ofNat page.offset) := Json.legible_ofNat fits.offset
  have total : Json.Legible (depth + 4) (Json.ofNat page.total) := Json.legible_ofNat fits.total
  refine .object (show ["items", "limit", "offset", "total"].Pairwise _ by decide) ?_
  simpa using ⟨items, limit, offset, total⟩

theorem roundTrips : RoundTrips Fits toJson ofJson? :=
  .of_legible (fun _ => legible_toJson) (fun _ => ofJson?_toJson) fun _ _ => fits_of_ofJson?

end Page

/-! ## Settings -/

namespace Settings

/-- The written form of a database, which may be none. -/
theorem nullable?_url (settings : Settings) :
    ∃ url, Json.nullable? Json.string? url = some settings.databaseUrl ∧
      (∀ depth, Json.Legible depth url) ∧
      settings.toJson = .object [("database_url", url), ("default_page_size", Json.ofNat settings.defaultPageSize),
        ("max_connections", Json.ofNat settings.maxConnections),
        ("max_page_size", Json.ofNat settings.maxPageSize)] := by
  rcases settings with ⟨url, maxConnections, defaultPageSize, maxPageSize⟩
  cases url with
  | none => exact ⟨.null, rfl, fun _ => .null, rfl⟩
  | some url => exact ⟨.string url, rfl, fun _ => .string url, rfl⟩

theorem ofJson?_toJson {settings : Settings} (fits : settings.Fits) : ofJson? settings.toJson = some settings := by
  rcases settings.nullable?_url with ⟨url, urlRead, _, form⟩
  have members : ∃ members, Members.ofJson? 4 settings.toJson = some members ∧
      members.find? "database_url" 0 = some url ∧
      members.find? "max_connections" 1 = some (Json.ofNat settings.maxConnections) ∧
      members.find? "default_page_size" 2 = some (Json.ofNat settings.defaultPageSize) ∧
      members.find? "max_page_size" 3 = some (Json.ofNat settings.maxPageSize) := by
    rw [form]
    exact ⟨_, rfl, rfl, rfl, rfl, rfl⟩
  rcases members with ⟨members, object, database, connections, standing, greatest⟩
  simp only [ofJson?, object, Option.bind_eq_bind, Option.bind_some,
    Members.optional?_of_find? database urlRead,
    Members.optional?_of_find? connections (Json.unsigned32?_ofNat fits.maxConnections),
    Members.optional?_of_find? standing (Json.unsigned64?_ofNat fits.defaultPageSize),
    Members.optional?_of_find? greatest (Json.unsigned64?_ofNat fits.maxPageSize)]

/-- A number that is left out has its standard value, which fits. -/
theorem fits_of_ofJson? {json : Json} {settings : Settings} (read : ofJson? json = some settings) :
    settings.Fits := by
  simp only [ofJson?, Option.bind_eq_bind, Option.bind_eq_some_iff, Option.some.injEq] at read
  rcases read with
    ⟨members, _, url, _, maxConnections, connections, defaultPageSize, standing, maxPageSize, greatest, rfl⟩
  have standard : Settings.standard.Fits := ⟨by decide, by decide, by decide⟩
  refine ⟨?_, ?_, ?_⟩
  · rcases Members.read_of_optional? connections with ⟨value, present⟩ | rfl
    · exact Json.lt_of_unsigned32? present
    · exact standard.maxConnections
  · rcases Members.read_of_optional? standing with ⟨value, present⟩ | rfl
    · exact Json.lt_of_unsigned64? present
    · exact standard.defaultPageSize
  · rcases Members.read_of_optional? greatest with ⟨value, present⟩ | rfl
    · exact Json.lt_of_unsigned64? present
    · exact standard.maxPageSize

theorem legible_toJson {depth : Nat} {settings : Settings} (fits : settings.Fits) :
    Json.Legible (depth + 1) settings.toJson := by
  rcases settings.nullable?_url with ⟨url, _, urlLegible, form⟩
  have wider : shortBound ≤ unsignedBound := by decide
  have connections : Json.Legible depth (Json.ofNat settings.maxConnections) :=
    Json.legible_ofNat (Nat.lt_of_lt_of_le fits.maxConnections wider)
  have standing : Json.Legible depth (Json.ofNat settings.defaultPageSize) :=
    Json.legible_ofNat fits.defaultPageSize
  have greatest : Json.Legible depth (Json.ofNat settings.maxPageSize) := Json.legible_ofNat fits.maxPageSize
  rw [form]
  refine .object (show ["database_url", "default_page_size", "max_connections", "max_page_size"].Pairwise _ by
    decide) ?_
  simpa using ⟨urlLegible depth, standing, connections, greatest⟩

theorem roundTrips : RoundTrips Fits toJson ofJson? :=
  .of_legible (fun _ => legible_toJson) (fun _ => ofJson?_toJson) fun _ _ => fits_of_ofJson?

end Settings

/-- All forms read back from their texts, with every place of a number, every target or none, and the order of
all fields, and whatever form is read is written in one that reads the same. -/
theorem roundTrips_forms :
    RoundTrips FieldDefinition.TargetFits FieldDefinition.toJson (FieldDefinition.ofJson? Json.isNull) ∧
      RoundTrips DirectoryDraft.Fits DirectoryDraft.toJson DirectoryDraft.ofJson? ∧
      RoundTrips Directory.Fits Directory.toJson Directory.ofJson? ∧
      RoundTrips DirectorySummary.Fits DirectorySummary.toJson DirectorySummary.ofJson? ∧
      RoundTrips FieldValue.Fits FieldValue.toJson FieldValue.ofJson? ∧
      RoundTrips Values.Fits Values.toJson Values.ofJson? ∧
      RoundTrips Record.Fits Record.toJson Record.ofJson? ∧
      RoundTrips (fun _ : SortOrder => True) SortOrder.toJson SortOrder.ofJson? ∧
      RoundTrips PageRequest.Fits PageRequest.toJson PageRequest.ofJson? ∧
      RoundTrips Page.Fits Page.toJson Page.ofJson? ∧
      RoundTrips Settings.Fits Settings.toJson Settings.ofJson? :=
  ⟨FieldDefinition.roundTrips, DirectoryDraft.roundTrips, Directory.roundTrips, DirectorySummary.roundTrips,
    FieldValue.roundTrips, Values.roundTrips, Record.roundTrips, SortOrder.roundTrips, PageRequest.roundTrips,
    Page.roundTrips, Settings.roundTrips⟩

/-- A directory with a bell in its name, the least id, a field without a target and the greatest count. -/
def sampleSummary : DirectorySummary :=
  ⟨⟨⟨-9223372036854775808⟩, default, "\"A\"\n\x07", [⟨"Owner", .reference, some ⟨1⟩⟩, ⟨"", .text, none⟩]⟩,
    2, 18446744073709551615⟩

theorem fits_sampleSummary : sampleSummary.Fits := by
  refine ⟨⟨by decide, ?_⟩, by decide, by decide⟩
  refine List.forall_mem_cons.mpr ⟨?_, List.forall_mem_cons.mpr ⟨?_, fun _ listed => by cases listed⟩⟩
  · rintro target ⟨⟩
    decide
  · rintro target ⟨⟩

/-- The text of the summary reads back, and so does a number of the value zero with all places.  An older form
of a field, by positions and with the older name of its type, is written in a form that reads the same. -/
theorem roundTrips_forms_samples :
    (Json.read? sampleSummary.toJson.text).bind DirectorySummary.ofJson? = some sampleSummary ∧
      (Json.read? (FieldValue.toJson (.number ⟨0, 28, by decide, by decide⟩)).text).bind FieldValue.ofJson? =
        some (.number ⟨0, 28, by decide, by decide⟩) ∧
      FieldDefinition.ofJson? Json.isNull (.array [.string "Owner", .string "DIRECTORY_REFERENCE"]) =
        some ⟨"Owner", .reference, none⟩ ∧
      FieldDefinition.ofJson? Json.isNull (FieldDefinition.toJson ⟨"Owner", .reference, none⟩) =
        some ⟨"Owner", .reference, none⟩ :=
  ⟨roundTrips_forms.2.2.2.1.text _ fits_sampleSummary, roundTrips_forms.2.2.2.2.1.text _ trivial, by decide +kernel,
    roundTrips_forms.1.value_again (.array [.string "Owner", .string "DIRECTORY_REFERENCE"])⟩

end RecordDirectory
