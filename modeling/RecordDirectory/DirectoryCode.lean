import RecordDirectory.Text.Hexadecimal

/-!
Codes of directories.

A code is 128 bits, drawn when a directory is created and never changed. It is written as thirty-two
hexadecimal digits in five groups, and read with or without the hyphens between them; the grouped form
may also stand in braces or behind the name `urn:uuid:`, in letters of either case. A code reads back
from its own text (`ofChars?_write`).
-/

namespace RecordDirectory

/-- A code, by its hexadecimal digits. -/
structure DirectoryCode where
  digits : List (Fin 16)
  length_eq : digits.length = 32
deriving DecidableEq

namespace DirectoryCode

instance : Inhabited DirectoryCode := ⟨⟨List.replicate 32 Hexadecimal.zero, List.length_replicate⟩⟩

/-- The code of these digits, if there are thirty-two. -/
def ofDigits? (digits : List (Fin 16)) : Option DirectoryCode :=
  if h : digits.length = 32 then some ⟨digits, h⟩ else none

/-- Puts hyphens after the eighth, twelfth, sixteenth and twentieth character. -/
def group (cs : List Char) : List Char :=
  cs.take 8 ++ '-' :: (cs.drop 8).take 4 ++ '-' :: (cs.drop 12).take 4 ++ '-' :: (cs.drop 16).take 4 ++
    '-' :: cs.drop 20

/-- Takes the hyphens out again; nothing where one is missing. -/
def ungroup? (cs : List Char) : Option (List Char) :=
  let bare := cs.take 8 ++ (cs.drop 9).take 4 ++ (cs.drop 14).take 4 ++ (cs.drop 19).take 4 ++ cs.drop 24
  if group bare = cs then some bare else none

def write (code : DirectoryCode) : List Char :=
  group (code.digits.map Hexadecimal.write)

def text (code : DirectoryCode) : String :=
  String.ofList code.write

def ofBare? (cs : List Char) : Option DirectoryCode :=
  (cs.mapM Hexadecimal.read?).bind ofDigits?

def ofGrouped? (cs : List Char) : Option DirectoryCode :=
  (ungroup? cs).bind ofBare?

/-- Drops a name in lower case from the front of a text, if it is there in letters of either case. -/
def dropName? : List Char → List Char → Option (List Char)
  | [], cs => some cs
  | c :: name, d :: cs => if c = d.toLower then dropName? name cs else none
  | _ :: _, [] => none

/-- Reads a code in any of its forms, which differ in length. -/
def ofChars? (cs : List Char) : Option DirectoryCode :=
  if cs.length = 32 then ofBare? cs
  else if cs.length = 36 then ofGrouped? cs
  else if cs.length = 38 then
    if cs.head? = some '\x7b' ∧ cs.getLast? = some '\x7d' then ofGrouped? (cs.drop 1).dropLast else none
  else if cs.length = 45 then (dropName? "urn:uuid:".toList cs).bind ofGrouped?
  else none

def read? (text : String) : Option DirectoryCode :=
  ofChars? text.toList

theorem ofDigits?_digits (code : DirectoryCode) : ofDigits? code.digits = some code := by
  simp [ofDigits?, code.length_eq]

private theorem mapM_read?_write (digits : List (Fin 16)) :
    (digits.map Hexadecimal.write).mapM Hexadecimal.read? = some digits := by
  induction digits with
  | nil => rfl
  | cons d rest ih => simp [ih]

theorem length_group {cs : List Char} (h : cs.length = 32) : (group cs).length = 36 := by
  simp [group, h]

private theorem ungroup?_group {cs : List Char} (h : cs.length = 32) : ungroup? (group cs) = some cs := by
  match cs, h with
  | [a0, a1, a2, a3, a4, a5, a6, a7, b0, b1, b2, b3, c0, c1, c2, c3, d0, d1, d2, d3,
      e0, e1, e2, e3, e4, e5, e6, e7, e8, e9, f0, f1], _ => simp [ungroup?, group]

/-- A code reads back from its own text. -/
theorem ofChars?_write (code : DirectoryCode) : ofChars? code.write = some code := by
  have hlength : (code.digits.map Hexadecimal.write).length = 32 := by simp [code.length_eq]
  have hwrite : code.write.length = 36 := length_group hlength
  rw [ofChars?, if_neg (by omega), if_pos hwrite, ofGrouped?, write, ungroup?_group hlength]
  show (((code.digits.map Hexadecimal.write).mapM Hexadecimal.read?).bind ofDigits?) = some code
  rw [mapM_read?_write]
  exact ofDigits?_digits code

@[simp]
theorem read?_text (code : DirectoryCode) : read? code.text = some code := by
  simp [read?, text, ofChars?_write]

end DirectoryCode

end RecordDirectory
