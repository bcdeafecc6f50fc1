import RecordDirectory.Decimal
import RecordDirectory.Text.Numeral

/-!
Decimals as they are stored: the digits of `Decimal.text`, and on reading also a sign, separators
between digits and an exponent.

Unlike the conversion of a literal, reading keeps the zeros at the end of a fraction, since the scale
is part of the decimal. Digits beyond what a decimal holds are rounded away, half up: those of a text by
the first of them, and those that an exponent moves too far by all of them.
-/

namespace RecordDirectory
namespace Decimal

/-- What has been read of a number: its digits so far, how many of them stand after the point, whether
there was a point, and whether there was a digit. -/
structure Progress where
  value : Nat
  scale : Nat
  point : Bool
  started : Bool

def Progress.start : Progress := ⟨0, 0, false, false⟩

/-- The digits rounded by the first one that does not fit. -/
def Progress.round? (p : Progress) (digit : Nat) : Option Progress :=
  if digit < 5 then some p
  else if p.value + 1 < coefficientBound then some { p with value := p.value + 1 }
  else if p.scale = 0 then none
  else some { p with value := (p.value + 5) / 10, scale := p.scale - 1 }

/-- The digit by which a full fraction is rounded; a mark in its place counts as zero. -/
def roundingDigit? (c : Char) : Option Nat :=
  if c.isDigit then some (c.toNat - '0'.toNat)
  else if c = '_' || c = '.' then some 0
  else none

/-- Whether only digits and separators stand here. -/
def isTail (cs : List Char) : Bool :=
  cs.all fun c => c.isDigit || c = '_'

/-- Reads the digits, the point and the separators of a number. -/
def readDigits? (p : Progress) : List Char → Option Progress
  | [] => if p.started then some p else none
  | c :: rest =>
    if p.point && greatestScale ≤ p.scale then
      if isTail rest then (roundingDigit? c).bind p.round? else none
    else if c.isDigit then
      let digit := c.toNat - '0'.toNat
      let value := p.value * 10 + digit
      if value < coefficientBound then
        readDigits? ⟨value, if p.point then p.scale + 1 else p.scale, p.point, true⟩ rest
      else if p.point && isTail rest then
        p.round? digit
      else
        none
    else if c = '.' && !p.point then
      readDigits? { p with point := true } rest
    else if c = '_' && p.started then
      readDigits? p rest
    else
      none

def readPlain? (cs : List Char) : Option Decimal :=
  let signed (negative : Bool) (rest : List Char) : Option Decimal :=
    (readDigits? Progress.start rest).bind fun p =>
      ofParts? (if negative then -(p.value : Int) else p.value) p.scale
  match cs with
  | '-' :: rest => signed true rest
  | '+' :: rest => signed false rest
  | cs => signed false cs

/-- Moves the point to the right. Where no places are left the value is written out as a whole number. -/
def shiftRight? (d : Decimal) (n : Nat) : Option Decimal :=
  if n ≤ d.scale then ofParts? d.coefficient (d.scale - n)
  else if n ≤ greatestScale then ofParts? (d.coefficient * tenTo (n - d.scale)) 0
  else none

/-- A size without its last `n` digits, rounded half up. -/
def dropDigits (size n : Nat) : Nat :=
  (size + 5 * tenTo n / 10) / tenTo n

/-- Moves the point to the left, by at most as many places as a decimal can have. Digits that come to
stand behind the last place are rounded away. -/
def shiftLeft? (d : Decimal) (n : Nat) : Option Decimal :=
  if n ≤ greatestScale then
    let excess := d.scale + n - greatestScale
    let size := dropDigits d.coefficient.natAbs excess
    ofParts? (if d.coefficient < 0 then -(size : Int) else size) (d.scale + n - excess)
  else
    none

def readShift? (cs : List Char) : Option Nat :=
  (Numeral.readUnsigned? cs).filter Numeral.fitsUnsigned32

/-- Reads a number with an exponent, which the first `e` starts. -/
def readScientific? (cs : List Char) : Option Decimal :=
  let isMark (c : Char) : Bool := c = 'e' || c = 'E'
  match cs.dropWhile (fun c => !isMark c) with
  | [] => none
  | _ :: exponent => do
    let base ← readPlain? (cs.takeWhile fun c => !isMark c)
    match exponent with
    | '-' :: rest => base.shiftLeft? (← readShift? rest)
    | rest => base.shiftRight? (← readShift? rest)

def read? (text : String) : Option Decimal :=
  readPlain? text.toList <|> readScientific? text.toList

end Decimal
end RecordDirectory
