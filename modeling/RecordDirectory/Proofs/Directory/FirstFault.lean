import RecordDirectory.Proofs.Directory.WellShaped

namespace RecordDirectory
namespace DirectoryDraft

/-!
# The first fault of a draft

A draft can be wrong in several places, and in several ways at one place, while its sender is told a single
fault.  Which one that is does not depend on how the check goes about it.  A blank name of the directory hides
every other fault.  Otherwise it is a fault of the first field that is not well shaped together with the fields
before it, and of the faults of this field a blank name hides a repeated one, and a repeated one a wrong target.

The faults are those of the trimmed draft: a name is blank or repeated by what is left of it.
-/

/-- What a field is refused for behind other fields that are faultless. -/
inductive FieldFault (before : List FieldDefinition) (field : FieldDefinition) : ValidationError → Prop
  | blank (nameless : field.name = "") : FieldFault before field (.blankFieldName before.length)
  | duplicate (named : field.name ≠ "") (used : ∃ earlier ∈ before, earlier.name = field.name) :
      FieldFault before field (.duplicateFieldName field.name)
  | missing (named : field.name ≠ "") (unused : ∀ earlier ∈ before, earlier.name ≠ field.name)
      (kind : field.type = .reference) (pointless : field.target = none) :
      FieldFault before field (.missingTarget field.name)
  | unexpected (named : field.name ≠ "") (unused : ∀ earlier ∈ before, earlier.name ≠ field.name)
      (kind : field.type ≠ .reference) (pointing : field.target ≠ none) :
      FieldFault before field (.unexpectedTarget field.name)

/-- What a draft with trimmed names is refused for. -/
inductive FirstFault (draft : DirectoryDraft) : ValidationError → Prop
  | name (blank : draft.name = "") : FirstFault draft .blankName
  | field {before after : List FieldDefinition} {field : FieldDefinition} {fault : ValidationError}
      (split : draft.fields = before ++ field :: after) (sound : WellShaped draft.name before)
      (faulty : FieldFault before field fault) : FirstFault draft fault

/-- The fault that is found does not depend on the order in which the earlier names are kept. -/
theorem fieldFault?_eq_some_iff {before : List FieldDefinition} {field : FieldDefinition}
    {fault : ValidationError} :
    fieldFault? before.length (before.map FieldDefinition.name).reverse field = some fault ↔
      FieldFault before field fault := by
  have used : field.name ∈ (before.map FieldDefinition.name).reverse ↔
      ∃ earlier ∈ before, earlier.name = field.name := by
    rw [List.mem_reverse, List.mem_map]
  unfold fieldFault?
  constructor
  · intro found
    split at found
    · next nameless =>
      cases found
      exact .blank (by simpa using nameless)
    · next nonempty =>
      have named : field.name ≠ "" := by simpa using nonempty
      split at found
      · next repeated =>
        cases found
        exact .duplicate named (used.mp repeated)
      · next fresh =>
        have unused : ∀ earlier ∈ before, earlier.name ≠ field.name :=
          fun earlier listed same => fresh (used.mpr ⟨earlier, listed, same⟩)
        split at found
        · next kind pointless =>
          cases found
          exact .missing named unused kind pointless
        · next kind pointing =>
          cases found
          exact .unexpected named unused (by simp [kind]) (by simp [pointing])
        · next kind pointing =>
          cases found
          exact .unexpected named unused (by simp [kind]) (by simp [pointing])
        · cases found
        · cases found
        · cases found
  · intro faulty
    cases faulty with
    | blank nameless => simp [nameless]
    | duplicate named repeated => rw [if_neg (by simpa using named), if_pos (used.mpr repeated)]
    | missing named unused kind pointless =>
        have fresh : field.name ∉ (before.map FieldDefinition.name).reverse := by
          simpa using unused
        rw [if_neg (by simpa using named), if_neg fresh, kind, pointless]
    | unexpected named unused kind pointing =>
        have fresh : field.name ∉ (before.map FieldDefinition.name).reverse := by
          simpa using unused
        rw [if_neg (by simpa using named), if_neg fresh]
        rcases Option.ne_none_iff_exists'.mp pointing with ⟨target, selected⟩
        cases type : field.type with
        | reference => exact absurd type kind
        | text | number => rw [selected]

/-- Where the first field is left out, the position behind it and its name are kept. -/
private theorem fieldFault?_behind (position : Nat) (earlier : List String) (first : FieldDefinition)
    (before : List FieldDefinition) (field : FieldDefinition) :
    fieldFault? (position + (first :: before).length)
        (((first :: before).map FieldDefinition.name).reverse ++ earlier) field =
      fieldFault? (position + 1 + before.length)
        ((before.map FieldDefinition.name).reverse ++ first.name :: earlier) field := by
  rw [List.length_cons, List.map_cons, List.reverse_cons, List.append_assoc, List.singleton_append,
    Nat.add_comm before.length, ← Nat.add_assoc]

/-- Fields fail with the fault of the first one that has a fault behind those before it. -/
theorem checkFields_eq_error_iff {position : Nat} {earlier : List String} {fields : List FieldDefinition}
    {fault : ValidationError} :
    checkFields position earlier fields = .error fault ↔
      ∃ before field after, fields.map trimmedField = before ++ field :: after ∧ Faultless earlier before ∧
        fieldFault? (position + before.length) ((before.map FieldDefinition.name).reverse ++ earlier) field =
          some fault := by
  induction fields generalizing position earlier with
  | nil => simp [checkFields]
  | cons field rest inductionHypothesis =>
      simp only [checkFields]
      constructor
      · intro failed
        split at failed
        · next found =>
          cases failed
          exact ⟨[], trimmedField field, rest.map trimmedField, rfl, faultless_nil earlier, found⟩
        · next faultless =>
          split at failed
          · cases failed
          · next restFailed =>
            cases failed
            rcases inductionHypothesis.mp restFailed with ⟨before, faulty, after, split, sound, found⟩
            refine ⟨trimmedField field :: before, faulty, after, ?_, ?_, ?_⟩
            · rw [List.map_cons, split, List.cons_append]
            · exact (faultless_cons position).mpr ⟨faultless, sound⟩
            · rw [fieldFault?_behind]
              exact found
      · rintro ⟨before, faulty, after, split, sound, found⟩
        cases before with
        | nil =>
            cases split
            rw [List.map_nil, List.reverse_nil, List.nil_append, List.length_nil, Nat.add_zero] at found
            rw [found]
        | cons first before =>
            rw [List.map_cons, List.cons_append, List.cons.injEq] at split
            rcases split with ⟨rfl, split⟩
            rcases (faultless_cons position).mp sound with ⟨faultless, sound⟩
            rw [fieldFault?_behind] at found
            rw [faultless, inductionHypothesis.mpr ⟨before, faulty, after, split, sound, found⟩]

/-- The fields of a draft with a proper name fail with its first fault. -/
theorem checkFields_eq_error_iff_firstFault {draft : DirectoryDraft} {fault : ValidationError}
    (proper : ProperName draft.trimmed.name) :
    checkFields 0 [] draft.fields = .error fault ↔ FirstFault draft.trimmed fault := by
  rw [checkFields_eq_error_iff]
  simp only [List.append_nil, Nat.zero_add, fieldFault?_eq_some_iff]
  -- The fields before the faulty one are trimmed, like all of them.
  have trimmedBefore {before after : List FieldDefinition} {field : FieldDefinition}
      (split : draft.trimmed.fields = before ++ field :: after) :
      ∀ earlier ∈ before, Text.trim earlier.name = earlier.name := fun earlier listed =>
    trim_name_of_mem_trimmed (split ▸ List.mem_append_left _ listed)
  constructor
  · rintro ⟨before, field, after, split, sound, faulty⟩
    exact .field split ((wellShaped_iff_faultless (trimmedBefore split)).mpr ⟨proper, sound⟩) faulty
  · intro first
    cases first with
    | name blank => exact absurd blank proper.nonempty
    | field split sound faulty =>
        exact ⟨_, _, _, split, ((wellShaped_iff_faultless (trimmedBefore split)).mp sound).2, faulty⟩

/-- A draft fails with its first fault. -/
theorem checkShape_eq_error_iff {draft : DirectoryDraft} {fault : ValidationError} :
    draft.checkShape = .error fault ↔ FirstFault draft.trimmed fault := by
  simp only [checkShape]
  by_cases blank : Text.trim draft.name = ""
  · rw [if_pos (by simpa using blank)]
    constructor
    · intro failed
      cases failed
      exact .name blank
    · intro first
      cases first with
      | name => rfl
      | field _ sound _ => exact absurd blank sound.name.nonempty
  · rw [if_neg (by simpa using blank), ← checkFields_eq_error_iff_firstFault (properName_trim blank)]
    cases checkFields 0 [] draft.fields <;> simp

/-- Trimming a draft twice is trimming it once. -/
theorem trimmed_trimmed (draft : DirectoryDraft) : draft.trimmed.trimmed = draft.trimmed := by
  have fields : draft.trimmed.fields.map trimmedField = draft.trimmed.fields := by
    refine (List.map_congr_left fun field listed => ?_).trans (List.map_id _)
    rw [trimmedField, trim_name_of_mem_trimmed listed]
    rfl
  rw [trimmed, fields]
  simp only [trimmed, Text.trim_trim]

/-- Checking decides whether the trimmed draft is well shaped.  It gives this draft back, which passes again
unchanged, or tells its first fault. -/
theorem checkShape_decides (draft : DirectoryDraft) :
    (∀ checked, draft.checkShape = .ok checked ↔
      checked = draft.trimmed ∧ WellShaped draft.trimmed.name draft.trimmed.fields) ∧
    (∀ fault, draft.checkShape = .error fault ↔ FirstFault draft.trimmed fault) ∧
    draft.checkShape.bind checkShape = draft.checkShape := by
  refine ⟨fun _ => checkShape_eq_ok_iff, fun _ => checkShape_eq_error_iff, ?_⟩
  cases result : draft.checkShape with
  | error fault => rfl
  | ok checked =>
      rcases checkShape_eq_ok_iff.mp result with ⟨rfl, shape⟩
      have again : draft.trimmed.checkShape = .ok draft.trimmed := by
        rw [checkShape_eq_ok_iff, trimmed_trimmed]
        exact ⟨rfl, shape⟩
      simp only [Except.bind, again]

end DirectoryDraft
end RecordDirectory
