/-!
Contiguous occurrences of one text in another.
-/

namespace RecordDirectory
namespace Text

/-- Whether the first list of characters occurs in the second, as a contiguous piece. -/
def occursIn (needle : List Char) : List Char → Bool
  | [] => needle.isEmpty
  | c :: rest => needle.isPrefixOf (c :: rest) || occursIn needle rest

/-- The test finds exactly the contiguous pieces. -/
theorem occursIn_iff {needle text : List Char} : occursIn needle text = true ↔ needle <:+: text := by
  induction text with
  | nil => simp [occursIn]
  | cons c rest ih =>
    rw [occursIn, Bool.or_eq_true, List.isPrefixOf_iff_prefix, ih, List.infix_cons_iff]

def contains (text needle : String) : Bool :=
  occursIn needle.toList text.toList

end Text
end RecordDirectory
