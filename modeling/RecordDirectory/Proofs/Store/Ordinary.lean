import RecordDirectory.Proofs.Store.Effect
import RecordDirectory.Proofs.Typing

namespace RecordDirectory

/-!
# Faults of what was sent

Checks can fail in two ways: for what a caller has sent, or for a stored definition that is broken, namely a
field that holds references and points nowhere.  The second way is open only to the checks of values, both to
typing and to the collecting of references, and there only under fields that are not well shaped.  The checks
of drafts and of targets do not have it at all.
-/

/-- A stop that shows no fault of the storage or of a stored definition, and nothing that is missing. -/
def Stop.IsOrdinary : Stop ServiceError → Prop
  | .because (.validation error) => error.isInternal = false
  | .because _ => False
  | .overflow => True

/-- A result, or an ordinary stop. -/
def Ordinary {α : Type} : Except (Stop ServiceError) α → Prop
  | .ok _ => True
  | .error stop => stop.IsOrdinary

theorem Ordinary.map {α β : Type} {result : Except (Stop ServiceError) α} (ordinary : Ordinary result)
    (f : α → β) : Ordinary (result.map f) := by
  cases result <;> exact ordinary

namespace DirectoryDraft

theorem isInternal_of_fieldFault? {position : Nat} {earlier : List String} {field : FieldDefinition}
    {fault : ValidationError} (found : fieldFault? position earlier field = some fault) :
    fault.isInternal = false := by
  unfold fieldFault? at found
  split at found
  · cases found
    rfl
  · split at found
    · cases found
      rfl
    · split at found <;> cases found <;> rfl

theorem isInternal_of_checkFields {position : Nat} {earlier : List String} {fields : List FieldDefinition}
    {fault : ValidationError} (failed : checkFields position earlier fields = .error fault) :
    fault.isInternal = false := by
  induction fields generalizing position earlier with
  | nil => cases failed
  | cons field rest inductionHypothesis =>
      simp only [checkFields] at failed
      split at failed
      · next found =>
        cases failed
        exact isInternal_of_fieldFault? found
      · split at failed
        · cases failed
        · next restFailed =>
          cases failed
          exact inductionHypothesis restFailed

theorem isInternal_of_checkShape {draft : DirectoryDraft} {fault : ValidationError}
    (failed : draft.checkShape = .error fault) : fault.isInternal = false := by
  simp only [checkShape] at failed
  split at failed
  · cases failed
    rfl
  · split at failed
    · cases failed
    · next fieldsFailed =>
      cases failed
      exact isInternal_of_checkFields fieldsFailed

end DirectoryDraft

namespace Typing

theorem isInternal_of_typeField {raw : RawValues} {field : FieldDefinition} {error : ValidationError}
    (targeted : field.type = .reference → field.target.isSome = true)
    (failed : typeField raw field = .error (.because error)) : error.isInternal = false := by
  simp only [typeField] at failed
  split at failed
  · unfold textValue at failed
    split at failed
    · cases failed
      rfl
    · dsimp only at failed
      split at failed <;> cases failed
      rfl
  · unfold numberValue at failed
    split at failed
    · cases failed
      rfl
    · split at failed <;> cases failed
      rfl
  · next kind =>
    have present := targeted kind
    rw [Option.isSome_iff_ne_none, ne_eq, ← Option.isNone_iff_eq_none] at present
    rw [if_neg present] at failed
    unfold referenceValue at failed
    split at failed
    · cases failed
      rfl
    · split at failed <;> cases failed
      rfl

/-- Typing under well-shaped fields finds no fault of the fields. -/
theorem isInternal_of_typeValues {raw : RawValues} {fields : List FieldDefinition} {error : ValidationError}
    (targeted : ∀ field ∈ fields, field.type = .reference → field.target.isSome = true)
    (failed : typeValues fields raw = .error (.because error)) : error.isInternal = false := by
  have listed : typeFields raw fields = .error (.because error) := by
    unfold typeValues at failed
    cases typed : typeFields raw fields with
    | ok pairs => simp [typed, Except.map] at failed
    | error stop => simpa [typed, Except.map] using failed
  clear failed
  induction fields with
  | nil => cases listed
  | cons field rest inductionHypothesis =>
      rcases List.forall_mem_cons.mp targeted with ⟨first, later⟩
      simp only [typeFields] at listed
      split at listed
      · next fieldFailed =>
        cases listed
        exact isInternal_of_typeField first fieldFailed
      · split at listed
        · next restFailed =>
          cases listed
          exact inductionHypothesis later restFailed
        · cases listed

end Typing

namespace Tables

variable {t : Tables}

theorem ordinary_targetsOutcome (t : Tables) (targets : List DirectoryId) :
    Ordinary (t.targetsOutcome targets) := by
  unfold targetsOutcome
  split
  · trivial
  · rfl

theorem ordinary_changeOutcome (t : Tables) (directory : DirectoryId) (targets : List DirectoryId) :
    Ordinary (t.changeOutcome directory targets) := by
  have ordinary := t.ordinary_targetsOutcome targets
  unfold changeOutcome
  split
  · next stop failed => exact failed ▸ ordinary
  · split
    · rfl
    · trivial

theorem isInternal_of_faultOf? {reference : References.Reference} {fault : ValidationError}
    (found : t.faultOf? reference = some fault) : fault.isInternal = false := by
  unfold faultOf? at found
  split at found
  · cases found
    rfl
  · split at found <;> cases found
    rfl

/-- A reference among typed values is in a reference field, and such a field of a well-shaped directory
points somewhere. -/
theorem collect_ne_error {name : String} {fields : List FieldDefinition} {raw : RawValues} {values : Values}
    (shape : WellShaped name fields) (typed : Typing.typeValues fields raw = .ok values)
    (error : ValidationError) : References.collect values fields ≠ .error error := by
  intro failed
  rcases References.pointless_of_collect failed with ⟨field, listed, id, held, pointless⟩
  rcases Typing.typeField_of_get? typed held with ⟨other, otherListed, sameName, fieldTyped⟩
  cases shape.eq_of_name_eq otherListed listed sameName
  have kind : field.type = .reference := (Typing.typeField_normal fieldTyped).1.symm
  have targeted := (shape.target_iff field listed).mpr kind
  rw [← shape.referenceTarget?_eq listed, pointless] at targeted
  cases targeted

/-- Under the fields of a well-shaped directory, input is refused for its own faults only. -/
theorem ordinary_valuesOutcome {name : String} {fields : List FieldDefinition}
    (shape : WellShaped name fields) (t : Tables) (raw : RawValues) :
    Ordinary (t.valuesOutcome fields raw) := by
  unfold valuesOutcome
  cases typed : Typing.typeValues fields raw with
  | error stop =>
      cases stop with
      | overflow => trivial
      | because error =>
          have targeted field (listed : field ∈ fields) := (shape.target_iff field listed).mpr
          exact Typing.isInternal_of_typeValues targeted typed
  | ok values =>
      refine Ordinary.map ?_ _
      unfold referencesOutcome referenceFault?
      cases collected : References.collect values fields with
      | error error => exact absurd collected (collect_ne_error shape typed error)
      | ok references =>
          dsimp only
          cases found : references.findSome? t.faultOf? with
          | none => trivial
          | some fault =>
              rcases List.exists_of_findSome?_eq_some found with ⟨reference, _, faulty⟩
              exact isInternal_of_faultOf? faulty

end Tables
end RecordDirectory
