import RecordDirectory.Settings.Document

namespace RecordDirectory
namespace Settings

/-!
# Settings that were loaded

Settings come from variables or from a document, and both ways end in the same check.  Whatever the variables
hold and whatever the document says, the settings that come out of it leave no request with an empty page,
since nobody who asks for no results at all is given none.
-/

/-- There are connections, and the page sizes are in their order above zero. -/
structure Usable (settings : Settings) : Prop where
  connected : 0 < settings.maxConnections
  default_pos : 0 < settings.defaultPageSize
  default_le : settings.defaultPageSize ≤ settings.maxPageSize

/-- Settings that the variables or a document give. -/
def Loaded (settings : Settings) : Prop :=
  (∃ lookup, ofVariables lookup = .ok settings) ∨ ∃ text, ofYaml text = .ok settings

/-- The check accepts what is usable, and changes nothing about it. -/
theorem checked_eq_ok_iff {settings accepted : Settings} :
    settings.checked = .ok accepted ↔ settings.Usable ∧ accepted = settings := by
  unfold checked
  constructor
  · intro passed
    split at passed
    · cases passed
    · next connected =>
      split at passed
      · cases passed
      · next positive =>
        split at passed
        · cases passed
        · next ordered =>
          cases passed
          exact ⟨⟨Nat.pos_of_ne_zero connected, Nat.pos_of_ne_zero positive, Nat.le_of_not_lt ordered⟩, rfl⟩
  · rintro ⟨⟨connected, positive, ordered⟩, rfl⟩
    rw [if_neg (Nat.ne_of_gt connected), if_neg (Nat.ne_of_gt positive), if_neg (Nat.not_lt_of_le ordered)]

/-- What the variables give is read number by number, and then it is checked. -/
theorem ofVariables_eq_ok {lookup : String → Option String} {settings : Settings}
    (loaded : ofVariables lookup = .ok settings) :
    settings.Usable ∧
      numberSetting "max_connections" Numeral.fitsUnsigned32 standard.maxConnections
        (lookup "UNIDIR_MAX_CONNECTIONS") = .ok settings.maxConnections ∧
      numberSetting "default_page_size" Numeral.fitsUnsigned64 standard.defaultPageSize
        (lookup "UNIDIR_DEFAULT_PAGE_SIZE") = .ok settings.defaultPageSize ∧
      numberSetting "max_page_size" Numeral.fitsUnsigned64 standard.maxPageSize
        (lookup "UNIDIR_MAX_PAGE_SIZE") = .ok settings.maxPageSize := by
  simp only [ofVariables, bind, Except.bind] at loaded
  split at loaded
  · cases loaded
  · next connections =>
    split at loaded
    · cases loaded
    · next standing =>
      split at loaded
      · cases loaded
      · next greatest =>
        rcases checked_eq_ok_iff.mp loaded with ⟨usable, rfl⟩
        exact ⟨usable, connections, standing, greatest⟩

/-- What a document gives is checked. -/
theorem ofYaml_eq_ok {text : String} {settings : Settings} (loaded : ofYaml text = .ok settings) :
    settings.Usable ∧ (Yaml.Document.read? text).bind ofDocument? = some settings := by
  unfold ofYaml at loaded
  split at loaded
  · next given =>
    rcases checked_eq_ok_iff.mp loaded with ⟨usable, rfl⟩
    exact ⟨usable, given⟩
  · cases loaded

theorem Loaded.usable {settings : Settings} : settings.Loaded → settings.Usable
  | .inl ⟨_, loaded⟩ => (ofVariables_eq_ok loaded).1
  | .inr ⟨_, loaded⟩ => (ofYaml_eq_ok loaded).1

/-- A window that answers a request is not empty. -/
theorem Usable.pageRequest_limit_pos {settings : Settings} (usable : settings.Usable)
    (offset limit : Nat) (sort : SortOrder) : 0 < (settings.pageRequest offset limit sort).limit := by
  have positive := usable.default_pos
  have ordered := usable.default_le
  unfold pageRequest
  split <;> simp only <;> omega

end Settings
end RecordDirectory
