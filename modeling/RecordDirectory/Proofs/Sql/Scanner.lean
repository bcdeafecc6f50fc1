import RecordDirectory.Sql.Token

namespace RecordDirectory
namespace Sql

/-!
# Lexemes of a text

The tokens of a statement decide its text, but a database gets the text and nothing else.  So the text is
taken apart again here, character by character and with no knowledge of the tokens: blanks separate, a
quote inside a quoted text is written twice, and words are read without regard to case.

Where a token ends is not marked in the text.  It is found by the character behind it, which never goes
on with the token, since there is a blank, a comma or a bracket (`scan?_writeAll`).
-/

/-- A unit of a text.  Words are in lower case. -/
inductive Lexeme where
  | word (s : String)
  | placeholder (n : Nat)
  | text (s : String)
  | number (n : Nat)
  | sign (s : String)
  | opening
  | closing
  | comma
deriving DecidableEq

namespace Scanner

def isLetter (c : Char) : Bool :=
  c.isAlpha || c = '_'

/-- A name goes on with the point behind the name of its table. -/
def isWordChar (c : Char) : Bool :=
  isLetter c || c.isDigit || c = '.'

/-- The characters that operators are made of. -/
def isSignChar (c : Char) : Bool :=
  "+-*/<>=~!@#%^&|?".toList.contains c

/-- What is being read, with the characters read so far from the last to the first. -/
inductive Mode where
  | between
  | word (read : List Char)
  | digits (read : List Char)
  | placeholder (read : List Char)
  | sign (read : List Char)
  | text (read : List Char)
  /-- Behind a quote in a quoted text, which either ends the text or is doubled. -/
  | quote (read : List Char)
deriving DecidableEq

namespace Mode

/-- Goes on with the same lexeme, if the character belongs to it. -/
def continue? : Mode → Char → Option Mode
  | between, _ => none
  | word read, c => if isWordChar c then some (word (c :: read)) else none
  | digits read, c => if c.isDigit then some (digits (c :: read)) else none
  | placeholder read, c => if c.isDigit then some (placeholder (c :: read)) else none
  | sign read, c => if isSignChar c then some (sign (c :: read)) else none
  | text read, c => some (if c = '\x27' then quote read else text (c :: read))
  | quote read, c => if c = '\x27' then some (text (c :: read)) else none

/-- The lexeme that has been read, if it can end here. -/
def finish? : Mode → Option (List Lexeme)
  | between => some []
  | word read => some [.word (String.ofList (read.reverse.map Char.toLower))]
  | digits read => some [.number (Numeral.value read.reverse)]
  | placeholder read => if read.isEmpty then none else some [.placeholder (Numeral.value read.reverse)]
  | sign read => some [.sign (String.ofList read.reverse)]
  | text _ => none
  | quote read => some [.text (String.ofList read.reverse)]

end Mode

/-- Starts with a character: a lexeme that it makes up alone, and what is read next. -/
def begin? (c : Char) : Option (List Lexeme × Mode) :=
  if c = ' ' then some ([], .between)
  else if c = '(' then some ([.opening], .between)
  else if c = ')' then some ([.closing], .between)
  else if c = ',' then some ([.comma], .between)
  else if c = '\x27' then some ([], .text [])
  else if c = '$' then some ([], .placeholder [])
  else if isLetter c then some ([], .word [c])
  else if c.isDigit then some ([], .digits [c])
  else if isSignChar c then some ([], .sign [c])
  else none

/-- The lexemes of a text, of which a part has been read. -/
def scan? (mode : Mode) : List Char → Option (List Lexeme)
  | [] => mode.finish?
  | c :: rest =>
    match mode.continue? c with
    | some next => scan? next rest
    | none => do
      let finished ← mode.finish?
      let (single, next) ← begin? c
      let later ← scan? next rest
      some (finished ++ single ++ later)

/-- Whether characters make up a word. -/
def isWord : List Char → Bool
  | [] => false
  | c :: rest => isLetter c && rest.all isWordChar

/-- Whether characters make up an operator. -/
def isSign (cs : List Char) : Bool :=
  !cs.isEmpty && cs.all isSignChar

/-- Whether a character can follow on any token. -/
def isDelimiter (c : Char) : Bool :=
  c = ' ' || c = ')' || c = ','

end Scanner

namespace Token

open Scanner

/-- The words that are no names: a star, and the brackets that are set off by blanks. -/
def isMark (s : String) : Bool :=
  s == "*" || s == "(" || s == ")"

/-- Whether a token is written with the characters of its kind. -/
def isProper : Token → Bool
  | word s => isMark s || isWord s.toList
  | apply s => isWord s.toList
  | sign s => isSign s.toList
  | placeholder _ | quoted _ | number _ | openBracket | closeBracket | comma => true

def wordLexeme (s : String) : Lexeme :=
  if s = "*" then .sign s
  else if s = "(" then .opening
  else if s = ")" then .closing
  else .word (String.ofList (s.toList.map Char.toLower))

/-- The lexemes that a token is read as. -/
def lexemes : Token → List Lexeme
  | word s => [wordLexeme s]
  | apply function => [.word (String.ofList (function.toList.map Char.toLower)), .opening]
  | placeholder n => [.placeholder n]
  | quoted s => [.text s]
  | number n => [.number n]
  | sign s => [.sign s]
  | openBracket => [.opening]
  | closeBracket => [.closing]
  | comma => [.comma]

end Token

namespace Scanner

/-! ## Reading one token -/

theorem scan?_of_stop {mode : Mode} {c : Char} (stop : mode.continue? c = none) (rest : List Char) :
    scan? mode (c :: rest) = (do
      let finished ← mode.finish?
      let (single, next) ← begin? c
      let later ← scan? next rest
      some (finished ++ single ++ later)) := by
  simp only [scan?, stop]

/-- Where a lexeme can end and the next character does not go on with it, the rest is read anew. -/
theorem scan?_of_finish {mode : Mode} {finished : List Lexeme} (finishes : mode.finish? = some finished)
    {rest : List Char} (stops : ∀ c tail, rest = c :: tail → mode.continue? c = none) :
    scan? mode rest = (scan? .between rest).map (finished ++ ·) := by
  cases rest with
  | nil =>
      rw [scan?, finishes]
      exact congrArg some (List.append_nil finished).symm
  | cons c tail =>
      rw [scan?_of_stop (stops c tail rfl), finishes, scan?_of_stop rfl]
      cases begin? c with
      | none => rfl
      | some begun =>
          cases later : scan? begun.2 tail with
          | none => simp [Mode.finish?, later]
          | some lexemes => simp [Mode.finish?, later]

/-- A lexeme takes in all characters that go on with it. -/
theorem scan?_append {mode : List Char → Mode} {belongs : Char → Bool}
    (continues : ∀ read c, belongs c = true → (mode read).continue? c = some (mode (c :: read)))
    {cs : List Char} (each : cs.all belongs = true) (read rest : List Char) :
    scan? (mode read) (cs ++ rest) = scan? (mode (cs.reverse ++ read)) rest := by
  induction cs generalizing read with
  | nil => rfl
  | cons c later inductionHypothesis =>
      rw [List.all_cons, Bool.and_eq_true] at each
      simp only [List.cons_append, scan?, continues read c each.1]
      rw [inductionHypothesis each.2]
      simp

/-- A character that starts a lexeme of more than itself. -/
theorem scan?_of_begin {c : Char} {next : Mode} (begins : begin? c = some ([], next)) (rest : List Char) :
    scan? .between (c :: rest) = scan? next rest := by
  rw [scan?_of_stop rfl, begins]
  cases later : scan? next rest <;> simp [Mode.finish?, later]

/-- A character that is a lexeme by itself, or a blank. -/
theorem scan?_single {c : Char} {single : List Lexeme} (begins : begin? c = some (single, .between))
    (rest : List Char) :
    scan? .between (c :: rest) = (scan? .between rest).map (single ++ ·) := by
  rw [scan?_of_stop rfl, begins]
  cases later : scan? .between rest <;> simp [Mode.finish?, later]

theorem begin?_letter {c : Char} (letter : isLetter c = true) : begin? c = some ([], .word [c]) := by
  have other : ∀ d, isLetter d = false → c ≠ d := by
    intro d different same
    rw [same, different] at letter
    cases letter
  simp [begin?, letter, other ' ' (by decide), other '(' (by decide), other ')' (by decide),
    other ',' (by decide), other '\x27' (by decide), other '$' (by decide)]

theorem isLetter_of_isDigit {c : Char} (digit : c.isDigit = true) : isLetter c = false := by
  have each : ∀ n, n < 58 → 48 ≤ n → isLetter (Char.ofNat n) = false := by decide
  rcases Char.isDigit_iff_toNat.mp digit with ⟨least, greatest⟩
  rw [← Char.ofNat_toNat c]
  exact each c.toNat (Nat.lt_succ_of_le greatest) least

theorem begin?_digit {c : Char} (digit : c.isDigit = true) : begin? c = some ([], .digits [c]) := by
  have other : ∀ d, d.isDigit = false → c ≠ d := by
    intro d different same
    rw [same, different] at digit
    cases digit
  simp [begin?, digit, isLetter_of_isDigit digit, other ' ' (by decide), other '(' (by decide),
    other ')' (by decide), other ',' (by decide), other '\x27' (by decide), other '$' (by decide)]

theorem begin?_sign {c : Char} (sign : isSignChar c = true) : begin? c = some ([], .sign [c]) := by
  have each : "+-*/<>=~!@#%^&|?".toList.all (fun d => begin? d == some ([], .sign [d])) = true := by decide
  exact beq_iff_eq.mp (List.all_eq_true.mp each c (List.contains_iff_mem.mp sign))

theorem scan?_word {cs : List Char} (isWord : isWord cs = true) {rest : List Char}
    (stops : ∀ c tail, rest = c :: tail → isWordChar c = false) :
    scan? .between (cs ++ rest) =
      (scan? .between rest).map ([.word (String.ofList (cs.map Char.toLower))] ++ ·) := by
  cases cs with
  | nil => cases isWord
  | cons c later =>
      rw [Scanner.isWord, Bool.and_eq_true] at isWord
      have continues : ∀ read c, isWordChar c = true → (Mode.word read).continue? c = some (.word (c :: read)) :=
        fun read c belongs => if_pos belongs
      rw [List.cons_append, scan?_of_begin (begin?_letter isWord.1), scan?_append continues isWord.2]
      rw [scan?_of_finish rfl fun c tail same => by simp [Mode.continue?, stops c tail same]]
      simp

theorem scan?_sign {cs : List Char} (isSign : isSign cs = true) {rest : List Char}
    (stops : ∀ c tail, rest = c :: tail → isSignChar c = false) :
    scan? .between (cs ++ rest) = (scan? .between rest).map ([.sign (String.ofList cs)] ++ ·) := by
  cases cs with
  | nil => cases isSign
  | cons c later =>
      simp only [Scanner.isSign, List.all_cons, Bool.and_eq_true] at isSign
      have continues : ∀ read c, isSignChar c = true → (Mode.sign read).continue? c = some (.sign (c :: read)) :=
        fun read c belongs => if_pos belongs
      rw [List.cons_append, scan?_of_begin (begin?_sign isSign.2.1), scan?_append continues isSign.2.2]
      rw [scan?_of_finish rfl fun c tail same => by simp [Mode.continue?, stops c tail same]]
      simp

theorem all_isDigit_write (n : Nat) : (Numeral.write n).all Char.isDigit = true :=
  List.all_eq_true.mpr fun _ listed => Numeral.isDigit_of_mem_write listed

theorem scan?_number (n : Nat) {rest : List Char}
    (stops : ∀ c tail, rest = c :: tail → c.isDigit = false) :
    scan? .between (Numeral.write n ++ rest) = (scan? .between rest).map ([.number n] ++ ·) := by
  have digits := all_isDigit_write n
  have value := Numeral.value_write n
  cases written : Numeral.write n with
  | nil => exact absurd written (Numeral.write_ne_nil n)
  | cons c later =>
      rw [written] at digits value
      rw [List.all_cons, Bool.and_eq_true] at digits
      have continues : ∀ read c, c.isDigit = true → (Mode.digits read).continue? c = some (.digits (c :: read)) :=
        fun read c belongs => if_pos belongs
      rw [List.cons_append, scan?_of_begin (begin?_digit digits.1), scan?_append continues digits.2]
      rw [scan?_of_finish rfl fun c tail same => by simp [Mode.continue?, stops c tail same]]
      simp [value]

theorem scan?_placeholder (n : Nat) {rest : List Char}
    (stops : ∀ c tail, rest = c :: tail → c.isDigit = false) :
    scan? .between ('$' :: Numeral.write n ++ rest) =
      (scan? .between rest).map ([.placeholder n] ++ ·) := by
  have continues : ∀ read c, c.isDigit = true →
      (Mode.placeholder read).continue? c = some (.placeholder (c :: read)) :=
    fun read c belongs => if_pos belongs
  have finishes : (Mode.placeholder ((Numeral.write n).reverse ++ [])).finish? = some [.placeholder n] := by
    simp [Mode.finish?, Numeral.write_ne_nil]
  rw [List.cons_append, scan?_of_begin rfl, scan?_append continues (all_isDigit_write n)]
  exact scan?_of_finish finishes fun c tail same => by simp [Mode.continue?, stops c tail same]

/-- A quoted text is read up to the quote that is not doubled. -/
theorem scan?_text (cs : List Char) (read : List Char) {rest : List Char}
    (stops : ∀ c tail, rest = c :: tail → c ≠ '\x27') :
    scan? (.text read) (cs.flatMap Token.quoteChar ++ '\x27' :: rest) =
      (scan? .between rest).map ([.text (String.ofList (read.reverse ++ cs))] ++ ·) := by
  induction cs generalizing read with
  | nil =>
      simp only [List.flatMap_nil, List.nil_append, scan?, Mode.continue?, if_pos]
      rw [scan?_of_finish rfl fun c tail same => by simp [Mode.continue?, stops c tail same]]
      simp
  | cons c later inductionHypothesis =>
      rw [List.flatMap_cons, List.append_assoc, Token.quoteChar]
      split
      · next quote =>
        simp only [List.cons_append, List.nil_append, scan?, Mode.continue?, if_pos]
        rw [inductionHypothesis]
        simp [quote]
      · next other =>
        simp only [List.cons_append, List.nil_append, scan?, Mode.continue?, if_neg other]
        rw [inductionHypothesis]
        simp

/-! ## Reading all tokens -/

/-- Where a token ends, at the end of the text or before a delimiter. -/
def Bounded (rest : List Char) : Prop :=
  ∀ c tail, rest = c :: tail → isDelimiter c = true

theorem Bounded.excludes {rest : List Char} (bounded : Bounded rest) {belongs : Char → Bool}
    (delimiters : [' ', ')', ','].all (fun d => !belongs d) = true) (c : Char) (tail : List Char)
    (same : rest = c :: tail) : belongs c = false := by
  have delimiter := bounded c tail same
  simp only [isDelimiter, Bool.or_eq_true, decide_eq_true_eq] at delimiter
  simpa using List.all_eq_true.mp delimiters c (by simpa [or_assoc] using delimiter)

theorem scan?_wordToken {s : String} (proper : (Token.word s).isProper = true) {rest : List Char}
    (bounded : Bounded rest) :
    scan? .between (s.toList ++ rest) = (scan? .between rest).map ([Token.wordLexeme s] ++ ·) := by
  by_cases mark : Token.isMark s = true
  · simp only [Token.isMark, Bool.or_eq_true, beq_iff_eq, or_assoc] at mark
    rcases mark with rfl | rfl | rfl
    · exact scan?_sign rfl (bounded.excludes (by decide))
    · exact scan?_single rfl rest
    · exact scan?_single rfl rest
  · have named := (Bool.or_eq_true_iff.mp proper).resolve_left mark
    simp only [Token.isMark, Bool.or_eq_true, beq_iff_eq, not_or, and_assoc] at mark
    rcases mark with ⟨star, opening, closing⟩
    rw [Token.wordLexeme, if_neg star, if_neg opening, if_neg closing]
    exact scan?_word named (bounded.excludes (by decide))

/-- A token is read as its lexemes, whatever stands behind it. -/
theorem scan?_write {token : Token} (proper : token.isProper = true) {rest : List Char}
    (bounded : token.opens = true ∨ Bounded rest) :
    scan? .between (token.write ++ rest) = (scan? .between rest).map (token.lexemes ++ ·) := by
  cases token with
  | word s => exact scan?_wordToken proper (bounded.resolve_left (by simp [Token.opens]))
  | apply function =>
      rw [Token.write, List.append_assoc, scan?_word proper fun c tail same => by
        cases same
        rfl]
      rw [List.singleton_append, scan?_single (c := '(') rfl]
      cases scan? .between rest <;> rfl
  | placeholder n =>
      exact scan?_placeholder n ((bounded.resolve_left (by simp [Token.opens])).excludes (by decide))
  | quoted s =>
      have ends : ∀ c tail, rest = c :: tail → decide (c = '\x27') = false :=
        (bounded.resolve_left (by simp [Token.opens])).excludes (by decide)
      rw [Token.write, List.cons_append, List.cons_append, List.append_assoc, scan?_of_begin rfl]
      rw [List.singleton_append, scan?_text s.toList [] fun c tail same => by simpa using ends c tail same]
      simp [Token.lexemes]
  | number n => exact scan?_number n ((bounded.resolve_left (by simp [Token.opens])).excludes (by decide))
  | sign s =>
      rw [Token.write, scan?_sign proper ((bounded.resolve_left (by simp [Token.opens])).excludes (by decide))]
      simp [Token.lexemes]
  | openBracket => exact scan?_single rfl rest
  | closeBracket => exact scan?_single rfl rest
  | comma => exact scan?_single rfl rest

theorem bounded_writeAll {token : Token} (closes : token.closes = true) (rest : List Token) :
    Bounded (Token.writeAll (token :: rest)) := by
  intro c tail same
  cases token with
  | closeBracket | comma =>
      cases rest <;> cases same <;> rfl
  | word | apply | placeholder | quoted | number | sign | openBracket => cases closes

/-- A text of proper tokens is read as their lexemes. -/
theorem scan?_writeAll {tokens : List Token} (proper : ∀ token ∈ tokens, token.isProper = true) :
    scan? .between (Token.writeAll tokens) = some (tokens.flatMap Token.lexemes) := by
  induction tokens with
  | nil => rfl
  | cons token rest inductionHypothesis =>
      rcases List.forall_mem_cons.mp proper with ⟨first, later⟩
      cases rest with
      | nil =>
          have atEnd : Bounded [] := fun c tail same => by cases same
          have read := scan?_write first (.inr atEnd)
          rw [List.append_nil] at read
          exact read
      | cons next others =>
          have readRest := inductionHypothesis later
          rw [Token.writeAll]
          split
          · next tight =>
            rw [Bool.or_eq_true] at tight
            rw [List.append_nil, scan?_write first (tight.imp_right fun closes => bounded_writeAll closes others)]
            rw [readRest]
            rfl
          · rw [List.append_assoc, scan?_write first (.inr fun c tail same => by cases same; rfl)]
            rw [List.singleton_append, scan?_single (c := ' ') rfl, readRest]
            rfl

end Scanner
end Sql
end RecordDirectory
