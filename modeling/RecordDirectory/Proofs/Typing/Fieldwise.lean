import RecordDirectory.Proofs.Typing

namespace RecordDirectory

/-!
# Typing field by field

Typing a bag under a list of fields is no more than typing it under each of them alone.  The first field that
fails alone is the answer, and otherwise every field has the value that it has alone, except that the last of
several fields with one name takes it from the others.  Nothing is asked of the fields: names may be repeated,
and a reference field may be without a target.

Alone, a field sees the value under its own name, and takes a null for a value that is not there.  So two bags
that differ in other names, or in which of their nulls are written out, are typed alike.
-/

namespace Typing

variable {raw other : RawValues} {fields : List FieldDefinition}

/-- What a bag has under a name.  There is no difference between a null and no value. -/
def given (raw : RawValues) (name : String) : Json :=
  (raw.get? name).getD .null

theorem input?_eq (raw : RawValues) (name : String) :
    input? raw name = if (given raw name).isNull then none else some (given raw name) := by
  unfold input? given
  cases raw.get? name with
  | none => rfl
  | some value => cases value <;> rfl

theorem typeField_congr {field : FieldDefinition} (same : given other field.name = given raw field.name) :
    typeField other field = typeField raw field := by
  unfold typeField
  rw [input?_eq, input?_eq, same]

/-- Bags under which every field is typed alike are typed alike. -/
theorem typeValues_congr (same : ∀ field ∈ fields, typeField other field = typeField raw field) :
    typeValues fields other = typeValues fields raw := by
  have pairs : typeFields other fields = typeFields raw fields := by
    induction fields with
    | nil => rfl
    | cons field rest inductionHypothesis =>
        rcases List.forall_mem_cons.mp same with ⟨first, others⟩
        simp only [typeFields, first, inductionHypothesis others]
  rw [typeValues, pairs, typeValues]

/-! ## One field alone -/

theorem typeValues_singleton (raw : RawValues) (field : FieldDefinition) :
    typeValues [field] raw = (typeField raw field).map fun value => .ofList [(field.name, value)] := by
  simp only [typeValues, typeFields]
  cases typeField raw field <;> rfl

theorem typeValues_singleton_eq_error_iff {field : FieldDefinition} {stop : Stop ValidationError} :
    typeValues [field] raw = .error stop ↔ typeField raw field = .error stop := by
  rw [typeValues_singleton]
  cases typeField raw field <;> simp [Except.map]

theorem typeValues_singleton_eq_ok_iff {field : FieldDefinition} {value : FieldValue} :
    typeValues [field] raw = .ok (.ofList [(field.name, value)]) ↔ typeField raw field = .ok value := by
  rw [typeValues_singleton]
  cases typeField raw field with
  | error stop =>
      constructor
      · rintro ⟨⟩
      · rintro ⟨⟩
  | ok held =>
      constructor
      · intro same
        have found := congrArg (Keyed.get? · field.name) (Except.ok.inj same)
        simpa [Keyed.get?_ofList, Keyed.lookup] using found
      · rintro ⟨⟩
        rfl

theorem exists_typeValues_singleton_iff {field : FieldDefinition} :
    (∃ single, typeValues [field] raw = .ok single) ↔ ∃ value, typeField raw field = .ok value := by
  rw [typeValues_singleton]
  cases typeField raw field <;> simp [Except.map]

/-! ## All fields -/

/-- How typing ends, by what each field gives alone. -/
inductive Fieldwise (fields : List FieldDefinition) (raw : RawValues) :
    Except (Stop ValidationError) Values → Prop
  | refused {before after : List FieldDefinition} {field : FieldDefinition} {stop : Stop ValidationError}
      (split : fields = before ++ field :: after)
      (typed : ∀ earlier ∈ before, ∃ single, typeValues [earlier] raw = .ok single)
      (alone : typeValues [field] raw = .error stop) : Fieldwise fields raw (.error stop)
  | accepted {values : Values} (typed : ∀ field ∈ fields, ∃ single, typeValues [field] raw = .ok single)
      (keys : ∀ name, name ∈ values.keys ↔ name ∈ fields.map FieldDefinition.name)
      (last : ∀ before field after, fields = before ++ field :: after →
        field.name ∉ after.map FieldDefinition.name →
        ∃ value, typeValues [field] raw = .ok (.ofList [(field.name, value)]) ∧
          values.get? field.name = some value) : Fieldwise fields raw (.ok values)

theorem typeValues_eq_error_iff {stop : Stop ValidationError} :
    typeValues fields raw = .error stop ↔ ∃ before field after, fields = before ++ field :: after ∧
      (∀ earlier ∈ before, ∃ single, typeValues [earlier] raw = .ok single) ∧
      typeValues [field] raw = .error stop := by
  have mapped : typeValues fields raw = .error stop ↔ typeFields raw fields = .error stop := by
    unfold typeValues
    cases typeFields raw fields <;> simp [Except.map]
  rw [mapped, typeFields_eq_error_iff]
  simp only [exists_typeValues_singleton_iff, typeValues_singleton_eq_error_iff]

/-- Among the typed values that of each field stands at its place. -/
theorem typeFields_append_cons {before after : List FieldDefinition} {field : FieldDefinition}
    {pairs : List (String × FieldValue)} (typed : typeFields raw (before ++ field :: after) = .ok pairs) :
    ∃ first value second, pairs = first ++ (field.name, value) :: second ∧ typeField raw field = .ok value ∧
      typeFields raw after = .ok second := by
  induction before generalizing pairs with
  | nil =>
      rw [List.nil_append, typeFields] at typed
      split at typed
      · cases typed
      · next value valueTyped =>
        split at typed
        · cases typed
        · next second restTyped =>
          cases typed
          exact ⟨[], value, second, rfl, valueTyped, restTyped⟩
  | cons head before inductionHypothesis =>
      rw [List.cons_append, typeFields] at typed
      split at typed
      · cases typed
      · next headValue headTyped =>
        split at typed
        · cases typed
        · next later restTyped =>
          cases typed
          rcases inductionHypothesis restTyped with ⟨first, value, second, rfl, valueTyped, afterTyped⟩
          exact ⟨(head.name, headValue) :: first, value, second, rfl, valueTyped, afterTyped⟩

/-- A name that is in use has a last field. -/
theorem exists_last_field {name : String} (used : name ∈ fields.map FieldDefinition.name) :
    ∃ before field after, fields = before ++ field :: after ∧ field.name = name ∧
      name ∉ after.map FieldDefinition.name := by
  induction fields with
  | nil => cases used
  | cons head rest inductionHypothesis =>
      by_cases later : name ∈ rest.map FieldDefinition.name
      · rcases inductionHypothesis later with ⟨before, field, after, rfl, named, unused⟩
        exact ⟨head :: before, field, after, rfl, named, unused⟩
      · rw [List.map_cons, List.mem_cons] at used
        exact ⟨[], head, rest, rfl, (used.resolve_right later).symm, later⟩

theorem fieldwise_typeValues (fields : List FieldDefinition) (raw : RawValues) :
    Fieldwise fields raw (typeValues fields raw) := by
  cases ended : typeValues fields raw with
  | error stop =>
      rcases typeValues_eq_error_iff.mp ended with ⟨before, field, after, split, typed, alone⟩
      exact .refused split typed alone
  | ok values =>
      rcases typeValues_eq_ofList ended with ⟨pairs, listed, rfl⟩
      refine .accepted (fun field member => ?_) (fun name => ?_) fun before field after split unused => ?_
      · rcases List.append_of_mem member with ⟨before, after, rfl⟩
        rcases typeFields_append_cons listed with ⟨_, value, _, _, valueTyped, _⟩
        exact exists_typeValues_singleton_iff.mpr ⟨value, valueTyped⟩
      · rw [Keyed.mem_keys_iff, Keyed.isSome_get?_ofList, (typeFields_spec listed).1]
      · subst split
        rcases typeFields_append_cons listed with ⟨first, value, second, rfl, valueTyped, afterTyped⟩
        refine ⟨value, typeValues_singleton_eq_ok_iff.mpr valueTyped, Keyed.get?_ofList_of_last ?_⟩
        rwa [(typeFields_spec afterTyped).1]

/-- What the fields give alone determines the values. -/
theorem Fieldwise.values_eq {values others : Values} (fieldwise : Fieldwise fields raw (.ok values))
    (also : Fieldwise fields raw (.ok others)) : values = others := by
  cases fieldwise with
  | accepted _ keys last =>
      cases also with
      | accepted _ otherKeys otherLast =>
          refine Keyed.ext_get? fun name => ?_
          by_cases used : name ∈ fields.map FieldDefinition.name
          · rcases exists_last_field used with ⟨before, field, after, split, rfl, unused⟩
            rcases last before field after split unused with ⟨value, alone, held⟩
            rcases otherLast before field after split unused with ⟨otherValue, otherAlone, otherHeld⟩
            rw [typeValues_singleton_eq_ok_iff] at alone otherAlone
            rw [alone] at otherAlone
            cases otherAlone
            rw [held, otherHeld]
          · have absent {l : Values} (keys : ∀ name, name ∈ l.keys ↔ name ∈ fields.map FieldDefinition.name) :
                l.get? name = none := by
              rwa [← Option.not_isSome_iff_eq_none, ← Keyed.mem_keys_iff, keys]
            rw [absent keys, absent otherKeys]

theorem Fieldwise.outcome_eq {outcome : Except (Stop ValidationError) Values}
    (fieldwise : Fieldwise fields raw outcome) : outcome = typeValues fields raw := by
  have ends := fieldwise_typeValues fields raw
  cases fieldwise with
  | refused split typed alone => exact (typeValues_eq_error_iff.mpr ⟨_, _, _, split, typed, alone⟩).symm
  | accepted typed keys last =>
      cases ended : typeValues fields raw with
      | error stop =>
          rcases typeValues_eq_error_iff.mp ended with ⟨before, field, after, rfl, _, alone⟩
          rcases typed field (List.mem_append_right _ List.mem_cons_self) with ⟨single, alsoAlone⟩
          rw [alone] at alsoAlone
          cases alsoAlone
      | ok values =>
          rw [ended] at ends
          rw [(Fieldwise.accepted typed keys last).values_eq ends]

/-- Typing ends as its fields alone do.  It does not depend on anything else than what a bag has under their
names. -/
theorem typeValues_fieldwise (fields : List FieldDefinition) (raw : RawValues) :
    (∀ outcome, Fieldwise fields raw outcome ↔ outcome = typeValues fields raw) ∧
      ∀ other : RawValues, (∀ field ∈ fields, given other field.name = given raw field.name) →
        typeValues fields other = typeValues fields raw := by
  refine ⟨fun outcome => ⟨Fieldwise.outcome_eq, ?_⟩, fun other same => ?_⟩
  · rintro rfl
    exact fieldwise_typeValues fields raw
  · exact typeValues_congr fun field listed => typeField_congr (same field listed)

end Typing
end RecordDirectory
