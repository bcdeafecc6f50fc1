import RecordDirectory.Decimal
import RecordDirectory.Text.Numeral

/-!
Decimal literals and their exact conversion.

A literal is an optional sign, digits with an optional point among, before or after them, and an
optional exponent. Its conversion is exact or refused: zeros at the end may be dropped to bring the
scale down to 28, and a negative scale is brought up to zero by appending zeros, but no digit is ever
rounded away.
-/

namespace RecordDirectory

/-- The parts of a decimal literal. -/
structure Literal where
  negative : Bool
  whole : List Char
  fraction : List Char
  exponent : Int
deriving DecidableEq

namespace Literal

/-- Reads the exponent part: nothing, or an `e`, an optional sign and at least one digit. -/
def readExponent? : List Char → Option Int
  | [] => some 0
  | c :: rest => if c = 'e' || c = 'E' then Numeral.readSigned? rest else none

/-- Reads an unsigned literal: digits before a point, after it or on both sides. -/
def readUnsigned? (negative : Bool) (cs : List Char) : Option Literal :=
  let whole := cs.takeWhile Char.isDigit
  match cs.dropWhile Char.isDigit with
  | '.' :: rest =>
    let fraction := rest.takeWhile Char.isDigit
    if whole.isEmpty && fraction.isEmpty then none
    else (readExponent? (rest.dropWhile Char.isDigit)).map fun e => ⟨negative, whole, fraction, e⟩
  | rest =>
    if whole.isEmpty then none
    else (readExponent? rest).map fun e => ⟨negative, whole, [], e⟩

/-- Reads a literal that is the whole text. -/
def read? : List Char → Option Literal
  | '+' :: rest => readUnsigned? false rest
  | '-' :: rest => readUnsigned? true rest
  | cs => readUnsigned? false cs

/-- Why a literal has no decimal. An answer to `overflow` cannot be given: the length of the number
written out is beyond 64 bits. -/
inductive Refusal where
  | inexact
  | overflow
deriving DecidableEq

def digits (l : Literal) : List Char :=
  (l.whole ++ l.fraction).dropWhile (· == '0')

/-- How many places after the point the last digit has; negative where zeros are missing before it. -/
def places (l : Literal) : Int :=
  l.fraction.length - l.exponent

/-- The most digits that a coefficient can have. -/
def greatestLength : Nat := 29

/-- Drops zeros at the end while the scale is too great. -/
def dropZeros : List Char → Int → List Char × Int
  | [], scale => ([], scale)
  | c :: reversed, scale =>
    if Decimal.greatestScale < scale ∧ c = '0' then dropZeros reversed (scale - 1)
    else (c :: reversed, scale)

/-- The decimal of digits that have the given number of places, where it exists. -/
def convert (negative : Bool) (digits : List Char) (places : Int) : Except Refusal Decimal :=
  let (reversed, scale) := dropZeros digits.reverse places
  let length : Int := reversed.length - min scale 0
  if Decimal.greatestScale < scale then .error .inexact
  else if ¬ Numeral.fitsSigned64 length then .error .overflow
  else if greatestLength < length then .error .inexact
  else
    let size : Int := Numeral.value reversed.reverse * tenTo (-scale).toNat
    match Decimal.ofParts? (if negative then -size else size) scale.toNat with
    | some d => .ok d
    | none => .error .inexact

/-- The decimal of exactly the literal's value. The exponent and the number of places must fit 64 bits,
which is looked at before anything else about the value. -/
def exact (l : Literal) : Except Refusal Decimal :=
  if ¬ Numeral.fitsSigned64 l.exponent then .error .inexact
  else if l.digits.isEmpty then .ok Decimal.zero
  else if ¬ Numeral.fitsSigned64 l.places then .error .inexact
  else convert l.negative l.digits l.places

end Literal

/-- The decimal that a literal text denotes. -/
def Decimal.ofLiteral (text : List Char) : Except Literal.Refusal Decimal :=
  match Literal.read? text with
  | some l => l.exact
  | none => .error .inexact

end RecordDirectory
