import RecordDirectory.Proofs.Settings
import RecordDirectory.Proofs.Stored.RoundTrip
import RecordDirectory.Proofs.Typing.WholeNumbers

namespace RecordDirectory

/-!
# Windows under loaded settings

Settings turn every request for a page into a window.  The window is never empty and never beyond the greatest
page size, it is the one that was asked for wherever that is admitted, and a request that has become a window
stays what it is (`Windows`).  For this the two page sizes have to be in their order above zero, and nothing else
(`windows_iff`).  The order is needed for requests of no results at all, which get the default page size whatever
the greatest one is.

The check at the end of loading asks for exactly that, and for connections.  It is passed by all settings that can
be used, so the settings that can be loaded are those and no others, as far as their numbers fit the words that
they are read into.
-/

namespace Numeral

theorem readUnsigned?_write (n : Nat) : readUnsigned? (write n) = some n := by
  unfold readUnsigned?
  split
  · next written => exact absurd written (write_head_ne (by decide) _)
  · exact read?_write n

end Numeral

namespace Settings

variable {settings : Settings}

/-! ## Windows -/

/-- What settings make of all requests for pages. -/
structure Windows (settings : Settings) : Prop where
  offset : ∀ offset limit sort, (settings.pageRequest offset limit sort).offset = offset
  sort : ∀ offset limit sort, (settings.pageRequest offset limit sort).sort = sort
  limit_pos : ∀ offset limit sort, 1 ≤ (settings.pageRequest offset limit sort).limit
  limit_le : ∀ offset limit sort, (settings.pageRequest offset limit sort).limit ≤ settings.maxPageSize
  limit_of_admitted : ∀ offset limit sort, 1 ≤ limit → limit ≤ settings.maxPageSize →
    (settings.pageRequest offset limit sort).limit = limit
  again : ∀ offset limit sort, let window := settings.pageRequest offset limit sort
    settings.pageRequest window.offset window.limit window.sort = window
  mono : ∀ offset limit larger sort, 1 ≤ limit → limit ≤ larger →
    (settings.pageRequest offset limit sort).limit ≤ (settings.pageRequest offset larger sort).limit

theorem pageRequest_limit_of_pos {limit : Nat} (positive : 1 ≤ limit) (offset : Nat) (sort : SortOrder) :
    (settings.pageRequest offset limit sort).limit = min limit settings.maxPageSize :=
  if_neg (Nat.ne_of_gt positive)

theorem pageRequest_limit_bounds (positive : 0 < settings.defaultPageSize)
    (ordered : settings.defaultPageSize ≤ settings.maxPageSize) (offset limit : Nat) (sort : SortOrder) :
    1 ≤ (settings.pageRequest offset limit sort).limit ∧
      (settings.pageRequest offset limit sort).limit ≤ settings.maxPageSize := by
  by_cases none : limit = 0
  · subst none
    exact ⟨positive, ordered⟩
  · have asked : 1 ≤ limit := Nat.pos_of_ne_zero none
    rw [pageRequest_limit_of_pos asked]
    exact ⟨Nat.le_min.mpr ⟨asked, Nat.le_trans positive ordered⟩, Nat.min_le_right ..⟩

theorem pageRequest_of_admitted {limit : Nat} (positive : 1 ≤ limit) (admitted : limit ≤ settings.maxPageSize)
    (offset : Nat) (sort : SortOrder) : settings.pageRequest offset limit sort = ⟨offset, limit, sort⟩ := by
  have kept : (settings.pageRequest offset limit sort).limit = limit := by
    rw [pageRequest_limit_of_pos positive, Nat.min_eq_left admitted]
  exact congrArg (PageRequest.mk offset · sort) kept

theorem pageRequest_limit_mono {limit larger : Nat} (positive : 1 ≤ limit) (ordered : limit ≤ larger)
    (offset : Nat) (sort : SortOrder) :
    (settings.pageRequest offset limit sort).limit ≤ (settings.pageRequest offset larger sort).limit := by
  rw [pageRequest_limit_of_pos positive, pageRequest_limit_of_pos (Nat.le_trans positive ordered)]
  exact Nat.le_min.mpr ⟨Nat.le_trans (Nat.min_le_left ..) ordered, Nat.min_le_right ..⟩

/-- The order of the page sizes above zero is enough for this, and nothing less is. -/
theorem windows_iff :
    settings.Windows ↔ 0 < settings.defaultPageSize ∧ settings.defaultPageSize ≤ settings.maxPageSize := by
  constructor
  · intro windows
    -- A request of no results at all shows the default page size.
    exact ⟨windows.limit_pos 0 0 .ascending, windows.limit_le 0 0 .ascending⟩
  · rintro ⟨positive, ordered⟩
    have bounds := pageRequest_limit_bounds positive ordered
    refine ⟨fun _ _ _ => rfl, fun _ _ _ => rfl, fun offset limit sort => (bounds offset limit sort).1,
      fun offset limit sort => (bounds offset limit sort).2, ?_, ?_, ?_⟩
    · intro offset limit sort asked admitted
      rw [pageRequest_of_admitted asked admitted]
    · intro offset limit sort
      exact pageRequest_of_admitted (bounds offset limit sort).1 (bounds offset limit sort).2 _ _
    · intro offset limit larger sort asked further
      exact pageRequest_limit_mono asked further offset sort

theorem Usable.windows (usable : settings.Usable) : settings.Windows :=
  windows_iff.mpr ⟨usable.default_pos, usable.default_le⟩

/-! ## Settings that can be loaded -/

theorem fits_of_numberSetting {key : String} {fits : Nat → Bool} {otherwise n : Nat} {value : Option String}
    (standing : fits otherwise = true) (read : numberSetting key fits otherwise value = .ok n) : fits n = true := by
  cases value with
  | none =>
      cases read
      exact standing
  | some text =>
      simp only [numberSetting] at read
      split at read
      · next found =>
        cases read
        exact (Option.filter_eq_some_iff.mp found).2
      · cases read

theorem fits_of_ofVariables {lookup : String → Option String} (loaded : ofVariables lookup = .ok settings) :
    settings.Fits := by
  rcases ofVariables_eq_ok loaded with ⟨_, connections, standing, greatest⟩
  exact ⟨of_decide_eq_true (fits_of_numberSetting (by decide) connections),
    of_decide_eq_true (fits_of_numberSetting (by decide) standing),
    of_decide_eq_true (fits_of_numberSetting (by decide) greatest)⟩

theorem fits_of_setting? {name : String} {fits : Nat → Bool} {otherwise n : Nat}
    {entries : List (String × Option Yaml.Scalar)} (standing : fits otherwise = true)
    (read : setting? name (numberOf? fits) otherwise entries = some n) : fits n = true := by
  unfold setting? at read
  split at read
  · cases read
    exact standing
  · rcases Option.bind_eq_some_iff.mp read with ⟨scalar, _, found⟩
    unfold numberOf? at found
    split at found
    · exact (Option.filter_eq_some_iff.mp found).2
    · cases found
  · cases read

theorem fits_standard : standard.Fits :=
  ⟨by decide, by decide, by decide⟩

theorem fits_of_ofEntries? {entries : List (String × Option Yaml.Scalar)}
    (read : ofEntries? entries = some settings) : settings.Fits := by
  simp only [ofEntries?, Option.bind_eq_bind, Option.bind_eq_some_iff, Option.some.injEq] at read
  rcases read with ⟨_, _, _, connections, _, standing, _, greatest, rfl⟩
  exact ⟨of_decide_eq_true (fits_of_setting? (by decide) connections),
    of_decide_eq_true (fits_of_setting? (by decide) standing),
    of_decide_eq_true (fits_of_setting? (by decide) greatest)⟩

theorem fits_of_ofDocument? {document : Yaml.Document} (read : ofDocument? document = some settings) :
    settings.Fits := by
  cases document with
  | empty =>
      cases read
      exact fits_standard
  | root node =>
      simp only [ofDocument?, ofRoot?] at read
      split at read
      · rcases Option.bind_eq_some_iff.mp read with ⟨_, _, entries⟩
        exact fits_of_ofEntries? entries
      · split at read
        · cases read
          exact fits_standard
        · cases read
      · cases read
      · cases read

theorem fits_of_ofYaml {text : String} (loaded : ofYaml text = .ok settings) : settings.Fits := by
  rcases Option.bind_eq_some_iff.mp (ofYaml_eq_ok loaded).2 with ⟨_, _, given⟩
  exact fits_of_ofDocument? given

theorem Loaded.fits : settings.Loaded → settings.Fits
  | .inl ⟨_, loaded⟩ => fits_of_ofVariables loaded
  | .inr ⟨_, loaded⟩ => fits_of_ofYaml loaded

/-- The variables that give settings, each number by its digits. -/
def toVariables (settings : Settings) : String → Option String
  | "UNIDIR_DATABASE_URL" => settings.databaseUrl
  | "UNIDIR_MAX_CONNECTIONS" => some (Numeral.text settings.maxConnections)
  | "UNIDIR_DEFAULT_PAGE_SIZE" => some (Numeral.text settings.defaultPageSize)
  | "UNIDIR_MAX_PAGE_SIZE" => some (Numeral.text settings.maxPageSize)
  | _ => none

theorem numberSetting_text {key : String} {fits : Nat → Bool} {otherwise n : Nat} (fit : fits n = true) :
    numberSetting key fits otherwise (some (Numeral.text n)) = .ok n := by
  have written : (Numeral.text n).toList = Numeral.write n := String.toList_ofList
  have trimmed : Text.trimChars (Numeral.write n) = Numeral.write n :=
    Text.trimChars_of_no_blank fun c listed => Decimal.isBlank_of_isDigit (Numeral.isDigit_of_mem_write listed)
  rw [numberSetting, written, trimmed, Numeral.readUnsigned?_write, Option.filter_some_pos fit]

/-- Usable settings are loaded from variables that hold their digits. -/
theorem ofVariables_toVariables (usable : settings.Usable) (fits : settings.Fits) :
    ofVariables settings.toVariables = .ok settings := by
  have url : (settings.toVariables "UNIDIR_DATABASE_URL").or (settings.toVariables "DATABASE_URL") =
      settings.databaseUrl := Option.or_none
  have connections : settings.toVariables "UNIDIR_MAX_CONNECTIONS" =
      some (Numeral.text settings.maxConnections) := rfl
  have standing : settings.toVariables "UNIDIR_DEFAULT_PAGE_SIZE" =
      some (Numeral.text settings.defaultPageSize) := rfl
  have greatest : settings.toVariables "UNIDIR_MAX_PAGE_SIZE" = some (Numeral.text settings.maxPageSize) := rfl
  rw [ofVariables, url, connections, standing, greatest, numberSetting_text (decide_eq_true fits.maxConnections),
    numberSetting_text (decide_eq_true fits.defaultPageSize), numberSetting_text (decide_eq_true fits.maxPageSize)]
  exact checked_eq_ok_iff.mpr ⟨usable, rfl⟩

/-- The settings that can be loaded are the usable ones whose numbers fit. -/
theorem loaded_iff : settings.Loaded ↔ settings.Usable ∧ settings.Fits := by
  constructor
  · intro loaded
    exact ⟨loaded.usable, loaded.fits⟩
  · rintro ⟨usable, fits⟩
    exact .inl ⟨_, ofVariables_toVariables usable fits⟩

/-- What the check lets pass turns every request into a window, whoever read it and from what. -/
theorem checked_iff : (∃ given : Settings, given.checked = .ok settings) ↔ settings.Usable ∧ settings.Windows := by
  constructor
  · rintro ⟨given, passed⟩
    rcases checked_eq_ok_iff.mp passed with ⟨usable, rfl⟩
    exact ⟨usable, usable.windows⟩
  · rintro ⟨usable, _⟩
    exact ⟨settings, checked_eq_ok_iff.mpr ⟨usable, rfl⟩⟩

/-- Whatever variables or document settings are loaded from, they are usable and turn every request into a window
within their bounds.  There is no other condition on what can be loaded, apart from the size of the words.  Another
reader of documents could not let in any other settings, for what it gives is checked, too. -/
theorem loaded_iff_windows (settings : Settings) :
    (settings.Loaded ↔ settings.Usable ∧ settings.Windows ∧ settings.Fits) ∧
      ((∃ given : Settings, given.checked = .ok settings) ↔ settings.Usable ∧ settings.Windows) := by
  refine ⟨?_, checked_iff⟩
  rw [loaded_iff]
  constructor
  · rintro ⟨usable, fits⟩
    exact ⟨usable, usable.windows, fits⟩
  · rintro ⟨usable, _, fits⟩
    exact ⟨usable, fits⟩

/-- A document that lowers the greatest page size as far as the check admits.  A request of twenty results keeps
them, and nobody gets more. -/
theorem windows_of_narrow_document :
    let narrow : Settings := { standard with maxPageSize := 20 }
    ofYaml "max_page_size: 20\n" = .ok narrow ∧ (narrow.pageRequest 7 20 .descending).limit = 20 ∧
      ∀ limit, (narrow.pageRequest 7 limit .descending).limit ≤ 20 := by
  intro narrow
  have loaded : ofYaml "max_page_size: 20\n" = .ok narrow := by decide +kernel
  have windows := ((loaded_iff_windows narrow).1.mp (.inr ⟨_, loaded⟩)).2.1
  exact ⟨loaded, windows.limit_of_admitted 7 20 .descending (by decide) (by decide),
    fun limit => windows.limit_le 7 limit .descending⟩

end Settings
end RecordDirectory
