import RecordDirectory.Proofs.Decimal.Literal

namespace RecordDirectory

/-!
# The grammar of decimal literals

What a decimal literal looks like, without saying how it is read: an optional sign, digits in which a point
may stand in any place, and an optional exponent with a sign of its own.  Digits are those of ASCII, and a
lone point is no number.

The reader takes exactly the texts of this grammar, and it finds the parts that they are made of
(`Literal.read?_eq_some_iff`).  A text has therefore one literal at most, although a point behind the last
digit leaves no trace in it.
-/

namespace Literal

/-- At least one digit, and nothing else. -/
structure IsNumber (digits : List Char) : Prop where
  nonempty : digits ≠ []
  each : digits.all Char.isDigit = true

/-- An optional sign, and whether it is a minus. -/
inductive Sign : Bool → List Char → Prop
  | none : Sign false []
  | plus : Sign false ['+']
  | minus : Sign true ['-']

/-- The digits before a point, those behind it, and how they are written. -/
inductive Mantissa : List Char → List Char → List Char → Prop
  | plain {whole : List Char} (wholeNumber : IsNumber whole) : Mantissa whole [] whole
  | pointed {whole fraction : List Char} (wholeNumber : IsNumber whole)
      (fractionDigits : fraction.all Char.isDigit = true) : Mantissa whole fraction (whole ++ '.' :: fraction)
  | bare {fraction : List Char} (fractionNumber : IsNumber fraction) : Mantissa [] fraction ('.' :: fraction)

/-- A number, and how it is written with an optional sign. -/
inductive Signed : Int → List Char → Prop
  | intro {negative : Bool} {sign digits : List Char} (signed : Sign negative sign) (number : IsNumber digits) :
      Signed (if negative then -(Numeral.value digits : Int) else Numeral.value digits) (sign ++ digits)

/-- The exponent, which is zero where none is written. -/
inductive Exponent : Int → List Char → Prop
  | none : Exponent 0 []
  | marked {mark : Char} {exponent : Int} {text : List Char} (isMark : mark = 'e' ∨ mark = 'E')
      (signed : Signed exponent text) : Exponent exponent (mark :: text)

/-- A text is the literal with these parts. -/
inductive Spells (l : Literal) : List Char → Prop
  | intro {sign mantissa exponent : List Char} (signed : Sign l.negative sign)
      (digits : Mantissa l.whole l.fraction mantissa) (shifted : Exponent l.exponent exponent) :
      Spells l (sign ++ (mantissa ++ exponent))

/-! ## Numbers -/

theorem numeralRead?_eq_some_iff {cs : List Char} {n : Nat} :
    Numeral.read? cs = some n ↔ IsNumber cs ∧ Numeral.value cs = n := by
  unfold Numeral.read?
  constructor
  · intro read
    split at read
    · cases read
    · next nonempty =>
      split at read
      · next each =>
        cases read
        exact ⟨⟨by simpa using nonempty, each⟩, rfl⟩
      · cases read
  · rintro ⟨⟨nonempty, each⟩, rfl⟩
    rw [if_neg (by simpa using nonempty), if_pos each]

/-- A number starts with a digit. -/
theorem IsNumber.eq_cons {digits : List Char} (number : IsNumber digits) :
    ∃ c rest, digits = c :: rest ∧ c.isDigit = true := by
  cases digits with
  | nil => exact absurd rfl number.nonempty
  | cons c rest =>
      have each := number.each
      rw [List.all_cons, Bool.and_eq_true] at each
      exact ⟨c, rest, rfl, each.1⟩

theorem readSigned?_eq_some_iff {cs : List Char} {n : Int} : Numeral.readSigned? cs = some n ↔ Signed n cs := by
  constructor
  · intro read
    unfold Numeral.readSigned? at read
    split at read
    all_goals
      simp only [Option.pure_def, Option.bind_eq_bind, Option.map_eq_some_iff, Option.bind_eq_some_iff,
        Option.some.injEq, numeralRead?_eq_some_iff] at read
      rcases read with ⟨_, ⟨size, ⟨number, rfl⟩, rfl⟩, rfl⟩
    · exact .intro .plus number
    · exact .intro .minus number
    · exact .intro .none number
  · rintro ⟨signed, number⟩
    have read := numeralRead?_eq_some_iff.mpr ⟨number, rfl⟩
    cases signed with
    | plus | minus => simp [Numeral.readSigned?, read]
    | none =>
        rcases number.eq_cons with ⟨c, rest, rfl, digit⟩
        rw [List.nil_append]
        unfold Numeral.readSigned?
        split
        · next same =>
          cases (List.cons.inj same).1
          cases digit
        · next same =>
          cases (List.cons.inj same).1
          cases digit
        · simp [read]

/-! ## Literals -/

theorem readExponent?_eq_some_iff {cs : List Char} {exponent : Int} :
    readExponent? cs = some exponent ↔ Exponent exponent cs := by
  cases cs with
  | nil =>
      constructor
      · rintro ⟨⟩
        exact .none
      · rintro ⟨⟩
        rfl
  | cons mark text =>
      simp only [readExponent?, Option.ite_none_right_eq_some, Bool.or_eq_true, decide_eq_true_eq,
        readSigned?_eq_some_iff]
      constructor
      · rintro ⟨isMark, signed⟩
        exact .marked isMark signed
      · rintro ⟨⟩
        exact ⟨‹_›, ‹_›⟩

/-- What stands behind the digits of a literal starts neither with another digit nor with a point. -/
theorem Exponent.head {exponent : Int} {text : List Char} (shifted : Exponent exponent text) :
    (∀ c, text.head? = some c → c.isDigit = false) ∧ ∀ rest, text ≠ '.' :: rest := by
  cases shifted with
  | none => simp
  | marked isMark =>
      rcases isMark with rfl | rfl <;> simp [Char.isDigit]

theorem readUnsigned?_mantissa (negative : Bool) {whole fraction mantissa : List Char} {exponent : Int}
    {text : List Char} (digits : Mantissa whole fraction mantissa) (shifted : Exponent exponent text) :
    readUnsigned? negative (mantissa ++ text) = some ⟨negative, whole, fraction, exponent⟩ := by
  have read := readExponent?_eq_some_iff.mpr shifted
  rcases shifted.head with ⟨stops, noPoint⟩
  have atPoint (rest : List Char) : ∀ c, ('.' :: rest).head? = some c → c.isDigit = false := by
    rintro c ⟨⟩
    rfl
  cases digits with
  | plain wholeNumber =>
      rcases span_isDigit wholeNumber.each text stops with ⟨taken, dropped⟩
      unfold readUnsigned?
      dsimp only
      rw [taken, dropped]
      split
      · next rest => exact absurd rfl (noPoint rest)
      · rw [if_neg (by simpa using wholeNumber.nonempty), read]
        rfl
  | pointed wholeNumber fractionDigits =>
      rcases span_isDigit wholeNumber.each ('.' :: (fraction ++ text)) (atPoint _) with ⟨taken, dropped⟩
      rcases span_isDigit fractionDigits text stops with ⟨fractionTaken, fractionDropped⟩
      have present : whole.isEmpty = false := by simpa using wholeNumber.nonempty
      rw [List.append_assoc, List.cons_append]
      unfold readUnsigned?
      simp only [taken, dropped, fractionTaken, fractionDropped, present, read]
      rfl
  | bare fractionNumber =>
      rcases span_isDigit fractionNumber.each text stops with ⟨fractionTaken, fractionDropped⟩
      have present : fraction.isEmpty = false := by simpa using fractionNumber.nonempty
      rw [List.cons_append]
      unfold readUnsigned?
      simp [fractionTaken, fractionDropped, present, read, Char.isDigit]

theorem mantissa_of_readUnsigned? {negative : Bool} {cs : List Char} {l : Literal}
    (read : readUnsigned? negative cs = some l) :
    l.negative = negative ∧ ∃ mantissa text, cs = mantissa ++ text ∧ Mantissa l.whole l.fraction mantissa ∧
      Exponent l.exponent text := by
  have taken (digits : List Char) : (digits.takeWhile Char.isDigit).all Char.isDigit = true :=
    List.all_takeWhile
  have parts := List.takeWhile_append_dropWhile (p := Char.isDigit) (l := cs)
  unfold readUnsigned? at read
  dsimp only at read
  split at read
  · next rest behind =>
    have restParts := List.takeWhile_append_dropWhile (p := Char.isDigit) (l := rest)
    split at read
    · cases read
    · next present =>
      rcases Option.map_eq_some_iff.mp read with ⟨exponent, found, rfl⟩
      refine ⟨rfl, cs.takeWhile Char.isDigit ++ '.' :: rest.takeWhile Char.isDigit, rest.dropWhile Char.isDigit,
        ?_, ?_, readExponent?_eq_some_iff.mp found⟩
      · rw [List.append_assoc, List.cons_append, restParts, ← behind, parts]
      · by_cases empty : cs.takeWhile Char.isDigit = []
        · rw [empty] at present ⊢
          exact .bare ⟨by simpa using present, taken rest⟩
        · exact .pointed ⟨empty, taken cs⟩ (taken rest)
  · split at read
    · cases read
    · next present =>
      rcases Option.map_eq_some_iff.mp read with ⟨exponent, found, rfl⟩
      exact ⟨rfl, _, _, parts.symm, .plain ⟨by simpa using present, taken cs⟩, readExponent?_eq_some_iff.mp found⟩

/-- Digits and a point start with no sign. -/
theorem Mantissa.head_ne {whole fraction mantissa : List Char} (digits : Mantissa whole fraction mantissa)
    {sign : Char} (notDigit : sign.isDigit = false) (notPoint : sign ≠ '.') (rest behind : List Char) :
    mantissa ++ behind ≠ sign :: rest := by
  have different {digits : List Char} (number : IsNumber digits) (behind : List Char) :
      digits ++ behind ≠ sign :: rest := by
    rcases number.eq_cons with ⟨c, later, rfl, digit⟩
    intro same
    cases (List.cons.inj same).1
    rw [notDigit] at digit
    cases digit
  cases digits with
  | plain wholeNumber => exact different wholeNumber behind
  | pointed wholeNumber => exact fun same => different wholeNumber _ (List.append_assoc .. ▸ same)
  | bare => exact fun same => notPoint (List.cons.inj same).1.symm

/-- The reader takes the texts of the grammar, and no others. -/
theorem read?_eq_some_iff {text : List Char} {l : Literal} : read? text = some l ↔ l.Spells text := by
  constructor
  · intro read
    unfold read? at read
    split at read
    all_goals
      rcases mantissa_of_readUnsigned? read with ⟨negative, mantissa, exponent, rfl, digits, shifted⟩
    · have signed : Sign l.negative ['+'] := negative ▸ .plus
      exact .intro signed digits shifted
    · have signed : Sign l.negative ['-'] := negative ▸ .minus
      exact .intro signed digits shifted
    · have signed : Sign l.negative [] := negative ▸ .none
      exact .intro signed digits shifted
  · rintro ⟨signed, digits, shifted⟩
    rcases l with ⟨negative, whole, fraction, exponent⟩
    have read := readUnsigned?_mantissa negative digits shifted
    cases signed with
    | plus | minus => exact read
    | none =>
        rw [List.nil_append]
        unfold read?
        split
        · next same => exact absurd same (digits.head_ne rfl (by decide) _ _)
        · next same => exact absurd same (digits.head_ne rfl (by decide) _ _)
        · exact read

end Literal
end RecordDirectory
