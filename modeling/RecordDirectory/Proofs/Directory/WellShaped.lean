import Mathlib.Data.List.Nodup
import RecordDirectory.Directory.Shape

namespace RecordDirectory

/-!
# Well-shaped directories

The shape that a check of a draft establishes, said without the check: names are trimmed and not empty,
no two fields share a name, and exactly the reference fields carry a target.  Whether a target exists is
not a matter of shape, since it depends on the tables.

A draft passes the check exactly where it has this shape once its names are trimmed, and nothing but its
names is changed (`checkShape_eq_ok_iff`).
-/

/-- A trimmed name that is not empty, as the names of directories and fields have to be. -/
structure ProperName (name : String) : Prop where
  trimmed : Text.trim name = name
  nonempty : name ≠ ""

/-- The shape of a directory with this name and these fields. -/
structure WellShaped (name : String) (fields : List FieldDefinition) : Prop where
  name : ProperName name
  field_name : ∀ field ∈ fields, ProperName field.name
  distinct : (fields.map FieldDefinition.name).Nodup
  target_iff : ∀ field ∈ fields, field.target.isSome = true ↔ field.type = .reference

namespace WellShaped

variable {name : String} {fields : List FieldDefinition}

/-- Two fields with one name are the same field. -/
theorem eq_of_name_eq (shape : WellShaped name fields) {first second : FieldDefinition}
    (firstListed : first ∈ fields) (secondListed : second ∈ fields) (same : first.name = second.name) :
    first = second :=
  List.inj_on_of_nodup_map shape.distinct firstListed secondListed same

/-- A reference field of a well-shaped directory points at its target. -/
theorem referenceTarget?_eq (shape : WellShaped name fields) {field : FieldDefinition}
    (listed : field ∈ fields) : field.referenceTarget? = field.target := by
  have exactly := shape.target_iff field listed
  unfold FieldDefinition.referenceTarget?
  cases kind : field.type <;> rw [kind] at exactly <;> cases selected : field.target <;>
    simp_all

end WellShaped

namespace DirectoryDraft

/-- A field without a fault has a proper name that no earlier field has, and a target exactly when it
is a reference. -/
theorem fieldFault?_eq_none_iff {position : Nat} {earlier : List String} {field : FieldDefinition} :
    fieldFault? position earlier field = none ↔
      field.name ≠ "" ∧ field.name ∉ earlier ∧ (field.target.isSome = true ↔ field.type = .reference) := by
  unfold fieldFault?
  by_cases blank : field.name = ""
  · simp [blank]
  · have notEmpty : field.name.isEmpty = false := by simpa using blank
    by_cases repeated : field.name ∈ earlier
    · simp [repeated, notEmpty]
    · cases kind : field.type <;> cases selected : field.target <;>
        simp [blank, notEmpty, repeated]

theorem properName_trim {name : String} (nonempty : Text.trim name ≠ "") : ProperName (Text.trim name) :=
  ⟨Text.trim_trim name, nonempty⟩

/-- Fields without a fault, behind fields with the names `earlier`. -/
structure Faultless (earlier : List String) (fields : List FieldDefinition) : Prop where
  each : ∀ field ∈ fields, field.name ≠ "" ∧ field.name ∉ earlier ∧
    (field.target.isSome = true ↔ field.type = .reference)
  distinct : (fields.map FieldDefinition.name).Nodup

theorem faultless_nil (earlier : List String) : Faultless earlier [] :=
  ⟨by simp, List.nodup_nil⟩

/-- The first field has no fault, and none of the others has its name. -/
theorem faultless_cons (position : Nat) {earlier : List String} {field : FieldDefinition}
    {rest : List FieldDefinition} :
    Faultless earlier (field :: rest) ↔
      fieldFault? position earlier field = none ∧ Faultless (field.name :: earlier) rest := by
  rw [fieldFault?_eq_none_iff]
  constructor
  · rintro ⟨each, distinct⟩
    rw [List.map_cons, List.nodup_cons] at distinct
    refine ⟨each field List.mem_cons_self, fun other listed => ?_, distinct.2⟩
    rcases each other (List.mem_cons_of_mem _ listed) with ⟨nonempty, unused, target⟩
    refine ⟨nonempty, fun used => ?_, target⟩
    rcases List.mem_cons.mp used with same | earlierUsed
    · exact distinct.1 (same ▸ List.mem_map_of_mem listed)
    · exact unused earlierUsed
  · rintro ⟨first, each, distinct⟩
    refine ⟨fun other listed => ?_, ?_⟩
    · rcases List.mem_cons.mp listed with rfl | later
      · exact first
      · rcases each other later with ⟨nonempty, unused, target⟩
        exact ⟨nonempty, fun used => unused (List.mem_cons_of_mem _ used), target⟩
    · rw [List.map_cons, List.nodup_cons]
      refine ⟨fun repeated => ?_, distinct⟩
      rcases List.mem_map.mp repeated with ⟨other, later, same⟩
      exact (each other later).2.1 (same ▸ List.mem_cons_self)

/-- Fields pass where they have no fault once they are trimmed, and they come out trimmed. -/
theorem checkFields_eq_ok_iff {position : Nat} {earlier : List String}
    {fields checked : List FieldDefinition} :
    checkFields position earlier fields = .ok checked ↔
      checked = fields.map trimmedField ∧ Faultless earlier (fields.map trimmedField) := by
  induction fields generalizing position earlier checked with
  | nil =>
      rw [checkFields, List.map_nil, and_iff_left (faultless_nil earlier), Except.ok.injEq]
      exact eq_comm
  | cons field rest inductionHypothesis =>
      rw [List.map_cons, faultless_cons position]
      simp only [checkFields]
      constructor
      · intro passed
        split at passed
        · cases passed
        · next faultless =>
          split at passed
          · next trimmedRest restPassed =>
            cases passed
            rcases inductionHypothesis.mp restPassed with ⟨rfl, restFaultless⟩
            exact ⟨rfl, faultless, restFaultless⟩
          · cases passed
      · rintro ⟨rfl, faultless, restFaultless⟩
        simp only [faultless, inductionHypothesis.mpr ⟨rfl, restFaultless⟩]

/-- Among trimmed names, the shape of a directory is a proper name and fields without a fault. -/
theorem wellShaped_iff_faultless {name : String} {fields : List FieldDefinition}
    (trimmed : ∀ field ∈ fields, Text.trim field.name = field.name) :
    WellShaped name fields ↔ ProperName name ∧ Faultless [] fields := by
  constructor
  · intro shape
    refine ⟨shape.name, fun field listed => ?_, shape.distinct⟩
    exact ⟨(shape.field_name field listed).nonempty, List.not_mem_nil, shape.target_iff field listed⟩
  · rintro ⟨proper, each, distinct⟩
    exact {
      name := proper
      field_name := fun field listed => ⟨trimmed field listed, (each field listed).1⟩
      distinct := distinct
      target_iff := fun field listed => (each field listed).2.2 }

/-- A draft with all of its names trimmed. -/
def trimmed (draft : DirectoryDraft) : DirectoryDraft where
  name := Text.trim draft.name
  fields := draft.fields.map trimmedField

theorem trim_name_of_mem_trimmed {draft : DirectoryDraft} {field : FieldDefinition}
    (listed : field ∈ draft.trimmed.fields) : Text.trim field.name = field.name := by
  rcases List.mem_map.mp listed with ⟨original, _, rfl⟩
  exact Text.trim_trim _

/-- A draft passes where it is well shaped once it is trimmed, and it comes out trimmed. -/
theorem checkShape_eq_ok_iff {draft checked : DirectoryDraft} :
    draft.checkShape = .ok checked ↔
      checked = draft.trimmed ∧ WellShaped draft.trimmed.name draft.trimmed.fields := by
  rw [wellShaped_iff_faultless fun field => trim_name_of_mem_trimmed]
  simp only [checkShape]
  constructor
  · intro passed
    split at passed
    · cases passed
    · next nonempty =>
      split at passed
      · next fields fieldsPassed =>
        cases passed
        rcases checkFields_eq_ok_iff.mp fieldsPassed with ⟨rfl, faultless⟩
        exact ⟨rfl, properName_trim (by simpa using nonempty), faultless⟩
      · cases passed
  · rintro ⟨rfl, proper, faultless⟩
    have nonempty : Text.trim draft.name ≠ "" := proper.nonempty
    rw [if_neg (by simpa using nonempty), checkFields_eq_ok_iff.mpr ⟨rfl, faultless⟩]
    rfl

/-- Checking a draft gives back a well-shaped one. -/
theorem wellShaped_of_checkShape {draft checked : DirectoryDraft} (passed : draft.checkShape = .ok checked) :
    WellShaped checked.name checked.fields := by
  rcases checkShape_eq_ok_iff.mp passed with ⟨rfl, shape⟩
  exact shape

end DirectoryDraft
end RecordDirectory
