import RecordDirectory.Text.Lowercase.Runs

/-!
Folding case: every character is replaced by its lower-case form, on its own and without regard to
its neighbours, so folding a text piece by piece is folding it whole (`foldChars_append`).
-/

namespace RecordDirectory
namespace Text

/-- The lower-case form of a character; only a capital I with a dot above has two characters. -/
def lower (c : Char) : List Char :=
  if c = '\u0130' then
    ['i', '\u0307']
  else
    match lowercaseRuns.find? (·.covers c.toNat) with
    | some run => [Char.ofNat (c.toNat + run.offset).toNat]
    | none => [c]

def foldChars (cs : List Char) : List Char :=
  cs.flatMap lower

/-- A text in lower case, character by character. -/
def foldCase (s : String) : String :=
  String.ofList (foldChars s.toList)

@[simp]
theorem foldChars_append (cs ds : List Char) : foldChars (cs ++ ds) = foldChars cs ++ foldChars ds := by
  simp [foldChars]

end Text
end RecordDirectory
