import Mathlib.Data.List.TakeWhile
import RecordDirectory.Json.Printer
import RecordDirectory.Json.Reader
import RecordDirectory.Proofs.Keyed

namespace RecordDirectory

/-!
# JSON text read back

A value is read back from its own text, and reading stops exactly where the text of the value stops.  For a
number this needs what stands behind it, since more digits would be read as part of it.  Inside a text that is
a comma or a closing bracket (`Json.Ends`).

Binary numbers are left out.  Everything else reads back if it can be written in a text at all: whole numbers
within 64 bits, members in ascending order, and no more nesting than the reader takes (`Json.Legible`).
-/

namespace Numeral

/-- The digits of a number other than zero do not start with a zero. -/
theorem write_eq_cons_of_pos {n : Nat} (positive : 0 < n) : ∃ c rest, write n = c :: rest ∧ c ≠ '0' := by
  induction n using Nat.strongRecOn with
  | ind n inductionHypothesis =>
      by_cases small : n < 10
      · have digits : ∀ digit < 10, 0 < digit → Nat.digitChar digit ≠ '0' := by decide
        exact ⟨Nat.digitChar n, [], Nat.toDigits_of_lt_base small, digits n small positive⟩
      · have tens : 0 < n / 10 := by omega
        rcases inductionHypothesis (n / 10) (by omega) tens with ⟨c, rest, written, nonzero⟩
        refine ⟨c, rest ++ [Nat.digitChar (n % 10)], ?_, nonzero⟩
        rw [write, Nat.toDigits_of_base_le (by decide) (by omega)]
        exact congrArg (· ++ [Nat.digitChar (n % 10)]) written

end Numeral

namespace Json

/-! ## Strings -/

theorem readUnit?_hexQuad {n : Nat} (fits : n < 65536) (rest : List Char) :
    readUnit? (hexQuad n ++ rest) = some (n, rest) := by
  have digit (k : Nat) : Hexadecimal.read? (Nat.digitChar (k % 16)) = some ⟨k % 16, Nat.mod_lt k (by decide)⟩ :=
    Hexadecimal.read?_write ⟨k % 16, Nat.mod_lt k (by decide)⟩
  have value : ((n / 4096 % 16 * 16 + n / 256 % 16) * 16 + n / 16 % 16) * 16 + n % 16 = n := by omega
  simp only [hexQuad, List.map_cons, List.map_nil, List.cons_append, List.nil_append, readUnit?, digit,
    Option.bind_eq_bind, Option.bind_some, value]

/-- An escape with a code unit that is no half of a surrogate pair. -/
theorem readNumbered?_hexQuad {n : Nat} (low : n < 0xd800) (rest : List Char) :
    readNumbered? (hexQuad n ++ rest) = some (Char.ofNat n, rest) := by
  have notHigh : ¬ 0xd800 ≤ n := by omega
  have notLow : ¬ 0xdc00 ≤ n := by omega
  simp [readNumbered?, readUnit?_hexQuad (show n < 65536 by omega), notHigh, notLow]

/-- The characters that have a short escape. -/
def shortEscapes : List Char :=
  ['"', '\\', '\x08', '\x0c', '\n', '\r', '\t']

/-- A character has a short escape, is another control character, or stands for itself. -/
theorem escape_cases (c : Char) :
    c ∈ shortEscapes ∨ (c.toNat < 0x20 ∧ escape c = '\\' :: 'u' :: hexQuad c.toNat) ∨
      (c ≠ '"' ∧ c ≠ '\\' ∧ ¬ c.toNat < 0x20 ∧ escape c = [c]) := by
  by_cases short : c ∈ shortEscapes
  · exact .inl short
  · simp only [shortEscapes, List.mem_cons, List.not_mem_nil, or_false, not_or] at short
    rcases short with ⟨quote, backslash, backspace, feed, line, carriage, tab⟩
    rw [escape, if_neg quote, if_neg backslash, if_neg backspace, if_neg feed, if_neg line, if_neg carriage,
      if_neg tab]
    by_cases control : c.toNat < 0x20
    · exact .inr (.inl ⟨control, if_pos control⟩)
    · exact .inr (.inr ⟨quote, backslash, control, if_neg control⟩)

/-- Every character reads back as it was written in a string. -/
theorem readCharacter?_escape (c : Char) (rest : List Char) :
    readCharacter? (escape c ++ rest) = some (c, rest) := by
  rcases escape_cases c with short | ⟨control, written⟩ | ⟨quote, backslash, printed, written⟩
  · simp only [shortEscapes, List.mem_cons, List.not_mem_nil, or_false] at short
    rcases short with rfl | rfl | rfl | rfl | rfl | rfl | rfl <;> rfl
  · rw [written]
    change readNumbered? (hexQuad c.toNat ++ rest) = _
    rw [readNumbered?_hexQuad (by omega), Char.ofNat_toNat]
  · simp [written, readCharacter?, quote, backslash, printed]

/-- No character of a string is written like its end. -/
theorem escape_eq_cons (c : Char) : ∃ head tail, escape c = head :: tail ∧ head ≠ '"' := by
  rcases escape_cases c with short | ⟨_, written⟩ | ⟨quote, _, _, written⟩
  · simp only [shortEscapes, List.mem_cons, List.not_mem_nil, or_false] at short
    rcases short with rfl | rfl | rfl | rfl | rfl | rfl | rfl <;> exact ⟨_, _, rfl, by decide⟩
  · exact ⟨_, _, written, by decide⟩
  · exact ⟨c, [], written, quote⟩

theorem readStringRest_escape {cs : List Char} {fuel : Nat} (enough : cs.length < fuel) (rest : List Char) :
    readStringRest fuel (cs.flatMap escape ++ '"' :: rest) = some (cs, rest) := by
  induction cs generalizing fuel with
  | nil =>
      cases fuel with
      | zero => cases enough
      | succ fuel => rfl
  | cons c later inductionHypothesis =>
      cases fuel with
      | zero => cases enough
      | succ fuel =>
          have behind := inductionHypothesis (Nat.lt_of_succ_lt_succ enough)
          have first := readCharacter?_escape c (later.flatMap escape ++ '"' :: rest)
          rcases escape_eq_cons c with ⟨head, tail, written, unended⟩
          rw [List.flatMap_cons, List.append_assoc]
          rw [written, List.cons_append] at first ⊢
          rw [readStringRest]
          · simp only [first, behind, Option.bind_eq_bind, Option.bind_some]
          · intro others same
            exact unended (List.cons.inj same).1

theorem length_le_flatMap_escape (cs : List Char) : cs.length ≤ (cs.flatMap escape).length := by
  induction cs with
  | nil => exact Nat.zero_le _
  | cons c rest inductionHypothesis =>
      rcases escape_eq_cons c with ⟨head, tail, written, _⟩
      rw [List.flatMap_cons, List.length_append, written, List.length_cons, List.length_cons]
      omega

/-- A string reads back, whatever stands behind it. -/
theorem readString?_writeString (s : String) (rest : List Char) :
    readString? (writeString s ++ rest) = some (s, rest) := by
  have enough := length_le_flatMap_escape s.toList
  have written : writeString s ++ rest = '"' :: (s.toList.flatMap escape ++ '"' :: rest) := by
    simp [writeString]
  rw [written, readString?, readStringRest_escape]
  · simp
  · rw [List.length_append]
    omega

/-! ## Numbers -/

/-- What can stand behind a value: nothing, or what goes on or ends a list. -/
def Ends : List Char → Prop
  | [] => True
  | c :: _ => c = ',' ∨ c = ']' ∨ c = '\x7d'

theorem spanDigits_write {rest : List Char} (ends : Ends rest) (n : Nat) :
    spanDigits (Numeral.write n ++ rest) = (Numeral.write n, rest) := by
  have digits : ∀ c ∈ Numeral.write n, c.isDigit = true := fun c => Numeral.isDigit_of_mem_write
  have stops : rest.takeWhile Char.isDigit = [] ∧ rest.dropWhile Char.isDigit = rest := by
    cases rest with
    | nil => exact ⟨rfl, rfl⟩
    | cons c later => rcases ends with rfl | rfl | rfl <;> exact ⟨rfl, rfl⟩
  rw [spanDigits, List.takeWhile_append_of_pos digits, List.dropWhile_append_of_pos digits, stops.1, stops.2,
    List.append_nil]

theorem readFraction?_of_ends {rest : List Char} (ends : Ends rest) : readFraction? rest = some (none, rest) := by
  cases rest with
  | nil => rfl
  | cons c later => rcases ends with rfl | rfl | rfl <;> rfl

theorem readExponent?_of_ends {rest : List Char} (ends : Ends rest) : readExponent? rest = some (none, rest) := by
  cases rest with
  | nil => rfl
  | cons c later => rcases ends with rfl | rfl | rfl <;> rfl

/-- A number has no zero in front of other digits. -/
theorem write_ne_zero_cons (n : Nat) (c : Char) (rest : List Char) : Numeral.write n ≠ '0' :: c :: rest := by
  intro padded
  cases n with
  | zero => cases padded
  | succ n =>
      rcases Numeral.write_eq_cons_of_pos (Nat.succ_pos n) with ⟨head, tail, written, nonzero⟩
      rw [padded] at written
      exact nonzero (List.cons.inj written).1.symm

/-- The digits of a whole number are well formed, and they are all that is read behind the sign. -/
theorem readNumber?_write {rest : List Char} (ends : Ends rest) (n : Nat) (negative : Bool) :
    readNumber? ((if negative then ['-'] else []) ++ Numeral.write n ++ rest) =
      (numberOf? negative (Numeral.write n) none none).map fun number => (number, rest) := by
  unfold readNumber?
  split
  next signed digits same =>
    have parts : negative = signed ∧ digits = Numeral.write n ++ rest := by
      cases negative with
      | true =>
          cases same
          exact ⟨rfl, rfl⟩
      | false =>
          split at same
          · next tail minus =>
            rcases List.exists_cons_of_ne_nil (Numeral.write_ne_nil n) with ⟨c, later, written⟩
            have first : c = '-' := by
              rw [written] at minus
              exact (List.cons.inj minus).1
            exact absurd (first ▸ written) (Numeral.write_head_ne (by decide) later)
          · cases same
            exact ⟨rfl, rfl⟩
    rcases parts with ⟨rfl, rfl⟩
    rw [spanDigits_write ends]
    dsimp only
    split
    · next none => exact absurd none (Numeral.write_ne_nil n)
    · next padded => exact absurd padded (write_ne_zero_cons n _ _)
    · simp only [if_true, readFraction?_of_ends ends, readExponent?_of_ends ends, Option.bind_eq_bind,
        Option.bind_some]
      cases numberOf? negative (Numeral.write n) none none <;> rfl

/-- The whole numbers that have a place among the values of 64 bits, with a sign or without one. -/
def Fits (n : Int) : Prop :=
  -(signedBound : Int) ≤ n ∧ n < unsignedBound

/-- A whole number reads back, exactly. -/
theorem readNumber?_writeInt {n : Int} (fits : Fits n) {rest : List Char} (ends : Ends rest) :
    readNumber? (Numeral.writeInt n ++ rest) = some (.integer n, rest) := by
  cases n with
  | ofNat n =>
      have small : Numeral.fitsUnsigned64 n = true := decide_eq_true (Int.ofNat_lt.mp fits.2)
      have number : numberOf? false (Numeral.write n) none none = some (.integer n) := by
        simp [numberOf?, Numeral.value_write, small]
      have read := readNumber?_write ends n false
      rw [number] at read
      exact read
  | negSucc n =>
      have bounded : n + 1 ≤ signedBound := by
        have lower := fits.1
        omega
      have number : numberOf? true (Numeral.write (n + 1)) none none = some (.integer (.negSucc n)) := by
        simp [numberOf?, Numeral.value_write, bounded, Int.negSucc_eq]
      have read := readNumber?_write ends (n + 1) true
      rw [number] at read
      exact read

/-! ## Values -/

/-- The values that read back from their text, where so much nesting is allowed. -/
inductive Legible : Nat → Json → Prop
  | null {depth : Nat} : Legible depth .null
  | bool {depth : Nat} (b : Bool) : Legible depth (.bool b)
  | integer {depth : Nat} {n : Int} (fits : Fits n) : Legible depth (.integer n)
  | string {depth : Nat} (s : String) : Legible depth (.string s)
  | array {depth : Nat} {items : List Json} (each : ∀ item ∈ items, Legible depth item) :
      Legible (depth + 1) (.array items)
  | object {depth : Nat} {members : List (String × Json)}
      (ascending : (members.map Prod.fst).Pairwise fun a b => compare a b = .lt)
      (each : ∀ member ∈ members, Legible depth member.2) : Legible (depth + 1) (.object members)

theorem skipSpace_cons {c : Char} (solid : isSpace c = false) (rest : List Char) :
    skipSpace (c :: rest) = c :: rest :=
  List.dropWhile_cons_of_neg (by simp [solid])

theorem isSpace_of_isDigit {c : Char} (digit : c.isDigit = true) : isSpace c = false := by
  refine Bool.eq_false_iff.mpr fun space => ?_
  simp only [isSpace, Bool.or_eq_true, decide_eq_true_eq] at space
  rcases space with ((rfl | rfl) | rfl) | rfl <;> cases digit

/-- A whole number starts with a minus sign or a digit. -/
theorem writeInt_eq_cons (n : Int) :
    ∃ c rest, Numeral.writeInt n = c :: rest ∧ (c = '-' ∨ c.isDigit = true) := by
  cases n with
  | ofNat n =>
      rcases List.exists_cons_of_ne_nil (Numeral.write_ne_nil n) with ⟨c, rest, written⟩
      exact ⟨c, rest, written, .inr (Numeral.isDigit_of_mem_write (written ▸ List.mem_cons_self))⟩
  | negSucc n => exact ⟨'-', _, rfl, .inl rfl⟩

theorem isSpace_of_first {c : Char} (first : c = '-' ∨ c.isDigit = true) : isSpace c = false := by
  rcases first with rfl | digit
  · rfl
  · exact isSpace_of_isDigit digit

/-- No legible value starts with a blank or with the end of an array. -/
theorem Legible.write_eq_cons {depth : Nat} {value : Json} (legible : Legible depth value) :
    ∃ c rest, write value = c :: rest ∧ isSpace c = false ∧ c ≠ ']' := by
  cases legible with
  | null => exact ⟨_, _, rfl, rfl, by decide⟩
  | bool b => cases b <;> exact ⟨_, _, rfl, rfl, by decide⟩
  | string s => exact ⟨_, _, rfl, rfl, by decide⟩
  | array | object =>
      rw [write]
      exact ⟨_, _, rfl, rfl, by decide⟩
  | integer =>
      rcases writeInt_eq_cons _ with ⟨c, rest, written, first⟩
      refine ⟨c, rest, written, isSpace_of_first first, ?_⟩
      rintro rfl
      rcases first with minus | digit
      · cases minus
      · cases digit

/-- Items read back one by one, where each of them does. -/
theorem readItems?_writeItems {item : List Char → Option (Json × List Char)} {items : List Json}
    (nonempty : items ≠ [])
    (each : ∀ value ∈ items, ∀ rest, Ends rest → item (write value ++ rest) = some (value, rest))
    {fuel : Nat} (enough : items.length ≤ fuel) (rest : List Char) :
    readItems? item fuel (writeItems items ++ ']' :: rest) = some (items, rest) := by
  induction items generalizing fuel with
  | nil => exact absurd rfl nonempty
  | cons value later inductionHypothesis =>
      rcases List.forall_mem_cons.mp each with ⟨first, others⟩
      cases fuel with
      | zero => cases enough
      | succ fuel =>
          cases later with
          | nil =>
              have read := first (']' :: rest) (.inr (.inl rfl))
              simp only [writeItems, readItems?, read, Option.bind_eq_bind, Option.bind_some]
              rfl
          | cons next more =>
              have read := first (',' :: (writeItems (next :: more) ++ ']' :: rest)) (.inl rfl)
              have behind := inductionHypothesis (List.cons_ne_nil next more) others
                (Nat.le_of_succ_le_succ enough)
              have parts : writeItems (value :: next :: more) ++ ']' :: rest =
                  write value ++ ',' :: (writeItems (next :: more) ++ ']' :: rest) := by
                simp [writeItems]
              rw [parts, readItems?, read, Option.bind_eq_bind, Option.bind_some]
              dsimp only
              rw [skipSpace_cons (show isSpace ',' = false from rfl)]
              change (readItems? item fuel (writeItems (next :: more) ++ ']' :: rest)).bind _ = _
              rw [behind]
              rfl

theorem length_le_writeItems {items : List Json}
    (each : ∀ value ∈ items, ∃ c rest, write value = c :: rest) :
    items.length ≤ (writeItems items).length := by
  induction items with
  | nil => exact Nat.zero_le _
  | cons value later inductionHypothesis =>
      rcases List.forall_mem_cons.mp each with ⟨⟨c, rest, written⟩, others⟩
      have behind := inductionHypothesis others
      cases later with
      | nil => simp [writeItems, written]
      | cons next more =>
          have parts : writeItems (value :: next :: more) = write value ++ ',' :: writeItems (next :: more) := by
            simp [writeItems]
          rw [parts]
          simp only [written, List.length_append, List.length_cons] at behind ⊢
          omega

/-- A member reads back if its value does. -/
theorem readMember?_write {item : List Char → Option (Json × List Char)} {member : String × Json}
    {rest : List Char} (read : item (write member.2 ++ rest) = some (member.2, rest)) :
    readMember? item (writeString member.1 ++ ':' :: write member.2 ++ rest) = some (member, rest) := by
  have solid : skipSpace (writeString member.1 ++ ':' :: (write member.2 ++ rest)) =
      writeString member.1 ++ ':' :: (write member.2 ++ rest) := rfl
  rw [List.append_assoc, List.cons_append, readMember?, solid, readString?_writeString, Option.bind_eq_bind,
    Option.bind_some]
  dsimp only
  rw [skipSpace_cons (show isSpace ':' = false from rfl)]
  change (item (write member.2 ++ rest)).bind _ = _
  rw [read]
  rfl

/-- Members read back one by one, where the value of each does. -/
theorem readMembers?_writeMembers {item : List Char → Option (Json × List Char)}
    {members : List (String × Json)} (nonempty : members ≠ [])
    (each : ∀ member ∈ members, ∀ rest, Ends rest → item (write member.2 ++ rest) = some (member.2, rest))
    {fuel : Nat} (enough : members.length ≤ fuel) (rest : List Char) :
    readMembers? item fuel (writeMembers members ++ '\x7d' :: rest) = some (members, rest) := by
  induction members generalizing fuel with
  | nil => exact absurd rfl nonempty
  | cons member later inductionHypothesis =>
      rcases List.forall_mem_cons.mp each with ⟨first, others⟩
      cases fuel with
      | zero => cases enough
      | succ fuel =>
          cases later with
          | nil =>
              have read := readMember?_write (first ('\x7d' :: rest) (.inr (.inr rfl)))
              rw [writeMembers, readMembers?, read, Option.bind_eq_bind, Option.bind_some]
              rfl
          | cons next more =>
              have read := readMember?_write
                (first (',' :: (writeMembers (next :: more) ++ '\x7d' :: rest)) (.inl rfl))
              have behind := inductionHypothesis (List.cons_ne_nil next more) others
                (Nat.le_of_succ_le_succ enough)
              have parts : writeMembers (member :: next :: more) ++ '\x7d' :: rest =
                  writeString member.1 ++ ':' :: write member.2 ++
                    ',' :: (writeMembers (next :: more) ++ '\x7d' :: rest) := by
                simp [writeMembers]
              rw [parts, readMembers?, read, Option.bind_eq_bind, Option.bind_some]
              dsimp only
              rw [skipSpace_cons (show isSpace ',' = false from rfl)]
              change (readMembers? item fuel (writeMembers (next :: more) ++ '\x7d' :: rest)).bind _ = _
              rw [behind]
              rfl

theorem length_le_writeMembers (members : List (String × Json)) :
    members.length ≤ (writeMembers members).length := by
  induction members with
  | nil => exact Nat.zero_le _
  | cons member later inductionHypothesis =>
      cases later with
      | nil => simp [writeMembers, writeString]
      | cons next more =>
          have parts : writeMembers (member :: next :: more) =
              writeString member.1 ++ ':' :: write member.2 ++ ',' :: writeMembers (next :: more) := by
            simp [writeMembers]
          rw [parts]
          simp only [List.length_append, List.length_cons] at inductionHypothesis ⊢
          omega

/-- Behind an opening bracket and before anything but its end there are items. -/
theorem readValue?_bracket {depth : Nat} {c : Char} {tail : List Char} (solid : isSpace c = false)
    (going : c ≠ ']') :
    readValue? (depth + 1) ('[' :: c :: tail) =
      (readItems? (readValue? depth) (c :: tail).length (c :: tail)).map fun read => (.array read.1, read.2) := by
  rw [readValue?.eq_def]
  dsimp only
  rw [skipSpace_cons (show isSpace '[' = false from rfl)]
  split
  case h_5 later same =>
    cases same
    rw [skipSpace_cons solid]
    split
    · next ended => exact absurd (List.cons.inj ended).1 going
    · rfl
  all_goals simp_all

/-- An array reads back if its items do, none of which starts like the end of the array. -/
theorem readValue?_array {depth : Nat} {items : List Json} (each : ∀ item ∈ items, Legible depth item)
    (read : ∀ item ∈ items, ∀ {rest : List Char}, Ends rest →
      readValue? depth (write item ++ rest) = some (item, rest)) (rest : List Char) :
    readValue? (depth + 1) (write (.array items) ++ rest) = some (.array items, rest) := by
  cases items with
  | nil => rw [readValue?.eq_def]; rfl
  | cons first later =>
      have written : ∀ item ∈ first :: later, ∃ c tail, write item = c :: tail := by
        intro item listed
        rcases (each item listed).write_eq_cons with ⟨c, tail, written, _⟩
        exact ⟨c, tail, written⟩
      have starts : ∃ c tail, writeItems (first :: later) ++ ']' :: rest = c :: tail ∧
          isSpace c = false ∧ c ≠ ']' := by
        rcases (each first List.mem_cons_self).write_eq_cons with ⟨c, tail, head, solid, going⟩
        cases later with
        | nil => exact ⟨c, tail ++ ']' :: rest, by rw [writeItems, head]; rfl, solid, going⟩
        | cons next more =>
            exact ⟨c, tail ++ ',' :: (writeItems (next :: more) ++ ']' :: rest), by simp [writeItems, head], solid,
              going⟩
      have enough : (first :: later).length ≤ (writeItems (first :: later) ++ ']' :: rest).length := by
        have least := length_le_writeItems written
        rw [List.length_append]
        omega
      have items := readItems?_writeItems (List.cons_ne_nil first later)
        (fun item listed rest ends => read item listed ends) enough rest
      have parts : write (.array (first :: later)) ++ rest =
          '[' :: (writeItems (first :: later) ++ ']' :: rest) := by
        simp [write]
      rcases starts with ⟨c, tail, text, solid, going⟩
      rw [text] at items
      rw [parts, text, readValue?_bracket solid going, items]
      rfl

/-- An object with ascending members reads back if their values do. -/
theorem readValue?_object {depth : Nat} {members : List (String × Json)}
    (ascending : (members.map Prod.fst).Pairwise fun a b => compare a b = .lt)
    (read : ∀ member ∈ members, ∀ {rest : List Char}, Ends rest →
      readValue? depth (write member.2 ++ rest) = some (member.2, rest)) (rest : List Char) :
    readValue? (depth + 1) (write (.object members) ++ rest) = some (.object members, rest) := by
  cases members with
  | nil => rw [readValue?.eq_def]; rfl
  | cons first later =>
      have starts : ∃ tail, writeMembers (first :: later) ++ '\x7d' :: rest = '"' :: tail := by
        cases later <;> exact ⟨_, by simp [writeMembers, writeString]; rfl⟩
      have enough : (first :: later).length ≤ (writeMembers (first :: later) ++ '\x7d' :: rest).length := by
        have least := length_le_writeMembers (first :: later)
        rw [List.length_append]
        omega
      have members := readMembers?_writeMembers (List.cons_ne_nil first later)
        (fun member listed rest ends => read member listed ends) enough rest
      have parts : write (.object (first :: later)) ++ rest =
          '\x7b' :: (writeMembers (first :: later) ++ '\x7d' :: rest) := by
        simp [write]
      -- The reader sorts what it has read, and these members are sorted already.
      have ordered : objectOf (first :: later) = .object (first :: later) :=
        congrArg (fun m : Keyed String Json => Json.object m.entries)
          (Keyed.ofList_entries ⟨first :: later, List.pairwise_map.mp ascending⟩)
      rcases starts with ⟨tail, text⟩
      rw [text] at members
      rw [parts, text, readValue?.eq_def]
      change (readMembers? (readValue? depth) ('"' :: tail).length ('"' :: tail)).map _ = _
      rw [members, ← ordered]
      rfl

/-- A legible value reads back from its text, and what ends it is left. -/
theorem readValue?_write {depth : Nat} {value : Json} (legible : Legible depth value) {rest : List Char}
    (ends : Ends rest) : readValue? depth (write value ++ rest) = some (value, rest) := by
  induction legible generalizing rest with
  | null => rw [readValue?.eq_def]; rfl
  | bool b => cases b <;> (rw [readValue?.eq_def]; rfl)
  | string s =>
      have read := readString?_writeString s rest
      rw [write, readValue?.eq_def]
      change (readString? (writeString s ++ rest)).map _ = _
      rw [read]
      rfl
  | @integer depth n fits =>
      rcases writeInt_eq_cons n with ⟨c, later, written, first⟩
      have read := readNumber?_writeInt fits ends
      rw [write, readValue?.eq_def]
      rw [written, List.cons_append] at read ⊢
      dsimp only
      rw [skipSpace_cons (isSpace_of_first first)]
      -- A number is what is left when the text starts with no sign of any other value.
      split
      all_goals first
        | exact read
        | next same =>
          cases (List.cons.inj same).1
          rcases first with minus | digit
          · cases minus
          · cases digit
  | array each inductionHypothesis => exact readValue?_array each inductionHypothesis rest
  | object ascending each inductionHypothesis => exact readValue?_object ascending inductionHypothesis rest

/-- A legible value is what its text holds. -/
theorem read?_text {value : Json} (legible : Legible depthLimit value) : read? value.text = some value := by
  have read : readValue? depthLimit (write value) = some (value, []) := by
    have read := readValue?_write legible (show Ends [] from trivial)
    rwa [List.append_nil] at read
  rw [read?, text, String.toList_ofList, read]
  rfl

end Json
end RecordDirectory
