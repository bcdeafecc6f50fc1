import Mathlib.Data.List.Infix
import Mathlib.Data.List.TakeWhile
import RecordDirectory.Predicate.Search

namespace RecordDirectory

/-!
# What a search looks for

The predicate of a search says of a record that it belongs to the directory and that the folded term occurs in
the folded text of one of the fields.  Its flat form does not matter for this, since a conjunction holds where
both of its parts do.

Folding a text takes it character by character, so a piece of a text that is folded is a piece of the folded
text, wherever it was cut out, although a character may become two.  A piece of a field is therefore always
found, in any case of its letters.
-/

namespace Text

theorem trimChars_eq_nil_iff {cs : List Char} : trimChars cs = [] ↔ ∀ c ∈ cs, isBlank c = true := by
  rw [trimChars, trimEnd, List.reverse_eq_nil_iff, List.dropWhile_eq_nil_iff]
  constructor
  · intro blank c listed
    rw [← List.takeWhile_append_dropWhile (p := isBlank) (l := cs)] at listed
    rcases List.mem_append.mp listed with early | late
    · exact List.mem_takeWhile_imp early
    · exact blank c (List.mem_reverse.mpr late)
  · intro blank c listed
    exact blank c ((List.dropWhile_sublist isBlank).mem (List.mem_reverse.mp listed))

/-- A text is blank where all of its characters are. -/
theorem isBlankText_iff {s : String} : isBlankText s = true ↔ ∀ c ∈ s.toList, isBlank c = true := by
  rw [← trimChars_eq_nil_iff, isBlankText, trim, String.isEmpty_iff]
  exact String.ofList_eq_empty_iff

/-- Texts that differ in the case of their ASCII letters only. -/
def SameButCase (s t : String) : Prop :=
  s.toList.map Char.toLower = t.toList.map Char.toLower

private theorem lower_toLower (c : Char) : lower c.toLower = lower c := by
  have capitals : ∀ n ∈ List.range' 65 26, lower (Char.ofNat n).toLower = lower (Char.ofNat n) := by
    decide +kernel
  by_cases capital : 65 ≤ c.toNat ∧ c.toNat ≤ 90
  · have listed : c.toNat ∈ List.range' 65 26 := List.mem_range'_1.mpr (by omega)
    have same := capitals c.toNat listed
    rwa [Char.ofNat_toNat] at same
  · have unchanged : c.toLower = c := by
      unfold Char.toLower
      exact dif_neg capital
    rw [unchanged]

/-- Such texts have the same folding. -/
theorem SameButCase.foldCase_eq {s t : String} (same : SameButCase s t) : foldCase s = foldCase t := by
  have folded (cs : List Char) : foldChars (cs.map Char.toLower) = foldChars cs := by
    simp only [foldChars, List.flatMap_map, lower_toLower]
  rw [foldCase, foldCase, ← folded s.toList, same, folded]

/-- A piece of a text is found in it. -/
theorem infix_foldChars {s t : List Char} (piece : s <:+: t) : foldChars s <:+: foldChars t :=
  piece.flatMap lower

end Text

/-- A term is looked for in the fields of a record: it is missing or blank, there is no field, or it occurs in
the text of one of the fields, both of them folded. -/
def Sought (fields : List FieldDefinition) (term : Option String) (record : Record) : Prop :=
  ∀ s, term = some s → (∀ c ∈ s.toList, Text.isBlank c = true) ∨ fields = [] ∨
    ∃ field ∈ fields,
      Text.foldChars s.toList <:+: Text.foldChars (record.project field.name).toList

namespace Predicate

variable {record : Record} {fields : List FieldDefinition} {term : Option String}

/-- A conjunction holds where both of its parts do. -/
theorem holds_and (record : Record) (p q : Predicate) :
    (p.and q).holds record = (p.holds record && q.holds record) := by
  unfold Predicate.and
  split <;> simp [holds, holdsAll_eq]

theorem holds_contains_iff {field s : String} :
    (contains field (Text.foldCase s)).holds record = true ↔
      Text.foldChars s.toList <:+: Text.foldChars (record.project field).toList := by
  rw [holds, Text.contains, Text.occursIn_iff]
  simp only [Text.foldCase, String.toList_ofList]

theorem holds_search_iff : (search term fields).holds record = true ↔ Sought fields term record := by
  cases term with
  | none => simp [search, holds, Sought]
  | some s =>
      simp only [Sought, Option.some.injEq, forall_eq']
      rw [search, ← Text.isBlankText_iff]
      by_cases idle : (Text.isBlankText s || fields.isEmpty) = true
      · rw [if_pos idle]
        rw [Bool.or_eq_true, List.isEmpty_iff] at idle
        simp only [holds, true_iff]
        exact idle.imp_right Or.inl
      · rw [if_neg idle]
        rw [Bool.or_eq_true, List.isEmpty_iff, not_or] at idle
        rw [or_iff_right idle.1, or_iff_right idle.2, holds, holdsAny_eq, List.any_map, List.any_eq_true]
        simp only [Function.comp_apply, holds_contains_iff]

/-- The records that a search finds are those of the directory in which the term is sought. -/
theorem holds_inDirectory_iff {id : DirectoryId} :
    (inDirectory id term fields).holds record = true ↔ record.directory = id ∧ Sought fields term record := by
  rw [inDirectory, holds_and, Bool.and_eq_true, holds_search_iff, holds, beq_iff_eq]

end Predicate
end RecordDirectory
