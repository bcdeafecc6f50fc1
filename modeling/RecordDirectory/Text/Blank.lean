/-!
Blank characters and trimming.

A character is blank when it has the Unicode property White_Space. Trimming removes the blanks at
both ends and nothing between; what is left neither starts nor ends with a blank, so that trimming
twice is trimming once (`trimChars_trimChars`).
-/

namespace RecordDirectory
namespace Text

def isBlank (c : Char) : Bool :=
  let n := c.toNat
  (9 ≤ n && n ≤ 13) || n == 0x20 || n == 0x85 || n == 0xa0 || n == 0x1680 ||
    (0x2000 ≤ n && n ≤ 0x200a) || n == 0x2028 || n == 0x2029 || n == 0x202f || n == 0x205f || n == 0x3000

def trimEnd (cs : List Char) : List Char :=
  (cs.reverse.dropWhile isBlank).reverse

def trimChars (cs : List Char) : List Char :=
  trimEnd (cs.dropWhile isBlank)

def trim (s : String) : String :=
  String.ofList (trimChars s.toList)

def isBlankText (s : String) : Bool :=
  (trim s).isEmpty

private theorem dropWhile_eq_self {cs : List Char} (h : ∀ c, cs.head? = some c → isBlank c = false) :
    cs.dropWhile isBlank = cs := by
  cases cs with
  | nil => rfl
  | cons c rest => simp [List.dropWhile, h c rfl]

private theorem head?_dropWhile {cs : List Char} {c : Char} (h : (cs.dropWhile isBlank).head? = some c) :
    isBlank c = false := by
  induction cs with
  | nil => simp at h
  | cons d rest ih =>
    by_cases hd : isBlank d = true
    · rw [List.dropWhile_cons_of_pos hd] at h
      exact ih h
    · rw [List.dropWhile_cons_of_neg hd] at h
      simp_all

/-- What is left after trimming the end does not end with a blank. -/
theorem getLast?_trimEnd {cs : List Char} {c : Char} (h : (trimEnd cs).getLast? = some c) :
    isBlank c = false := by
  rw [trimEnd, List.getLast?_reverse] at h
  exact head?_dropWhile h

private theorem head?_trimEnd {cs : List Char} {c : Char} (h : (trimEnd cs).head? = some c) :
    cs.head? = some c := by
  have happ : ∃ tail, cs = trimEnd cs ++ tail := by
    refine ⟨(cs.reverse.takeWhile isBlank).reverse, ?_⟩
    rw [trimEnd, ← List.reverse_append, List.takeWhile_append_dropWhile, List.reverse_reverse]
  obtain ⟨tail, htail⟩ := happ
  rw [htail, List.head?_append, h]
  rfl

/-- What is left after trimming does not start with a blank. -/
theorem head?_trimChars {cs : List Char} {c : Char} (h : (trimChars cs).head? = some c) :
    isBlank c = false :=
  head?_dropWhile (head?_trimEnd h)

/-- Trimming twice is trimming once. -/
theorem trimChars_trimChars (cs : List Char) : trimChars (trimChars cs) = trimChars cs := by
  have hstart : (trimChars cs).dropWhile isBlank = trimChars cs :=
    dropWhile_eq_self fun c h => head?_trimChars h
  have hend : (trimChars cs).reverse.dropWhile isBlank = (trimChars cs).reverse := by
    apply dropWhile_eq_self
    intro c h
    rw [List.head?_reverse] at h
    exact getLast?_trimEnd h
  show trimEnd ((trimChars cs).dropWhile isBlank) = trimChars cs
  rw [hstart, trimEnd, hend, List.reverse_reverse]

/-- Trimming twice is trimming once. -/
@[simp]
theorem trim_trim (s : String) : trim (trim s) = trim s := by
  simp [trim, trimChars_trimChars]

end Text
end RecordDirectory
