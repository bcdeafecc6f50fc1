import RecordDirectory.Power

/-!
Finite binary floating-point numbers of 64 bits, as exact values.

A number is a sign, a significand below `2 ^ 53` and a binary exponent. A decimal literal is read as
the nearest such number, a tie going to the even significand; a literal beyond the largest number is
none.
-/

namespace RecordDirectory

/-- The number `significand * 2 ^ exponent`, with a sign also on zero. The significand has 53 binary
digits unless the exponent is the least one. -/
structure Binary64 where
  negative : Bool
  significand : Nat
  exponent : Int
deriving DecidableEq

namespace Binary64

/-- The number of binary digits of a significand. -/
def precision : Nat := 53

def leastExponent : Int := -1074

def greatestExponent : Int := 971

/-- The fraction `num / den` to the nearest whole number, a tie going to the even one. -/
def roundToEven (num den : Nat) : Nat :=
  let q := num / den
  let r := num % den
  if 2 * r < den then q
  else if den < 2 * r then q + 1
  else if q % 2 = 0 then q else q + 1

/-- The exponent of the greatest power of two that is not above `num / den`, both positive. -/
def floorLog2 (num den : Nat) : Int :=
  let guess : Int := (num.log2 : Int) - (den.log2 : Int)
  if num * twoTo (-guess).toNat < den * twoTo guess.toNat then guess - 1 else guess

/-- The fraction `num / den` divided by a power of two, rounded to a whole number. -/
def scaledSignificand (num den : Nat) (exponent : Int) : Nat :=
  roundToEven (num * twoTo (-exponent).toNat) (den * twoTo exponent.toNat)

/-- The number nearest to `num / den`, with the given sign. -/
def ofFraction? (negative : Bool) (num den : Nat) : Option Binary64 :=
  if num = 0 then
    some ⟨negative, 0, leastExponent⟩
  else
    let exponent := max (floorLog2 num den - (precision - 1)) leastExponent
    let significand := scaledSignificand num den exponent
    let result : Binary64 :=
      if significand = twoTo precision then ⟨negative, twoTo (precision - 1), exponent + 1⟩
      else ⟨negative, significand, exponent⟩
    if result.exponent ≤ greatestExponent then some result else none

/-- The number nearest to `digits * 10 ^ exponent`. Values with more than 310 digits before the point
are beyond every number, and values with more than 400 zeros after it are nearest to zero, so that no
power of ten is formed that the answer does not need. -/
def ofDecimal? (negative : Bool) (digits : Nat) (exponent : Int) : Option Binary64 :=
  let magnitude : Int := (Nat.toDigits 10 digits).length + exponent
  if digits = 0 then ofFraction? negative 0 1
  else if 310 < magnitude then none
  else if magnitude < -400 then ofFraction? negative 0 1
  else ofFraction? negative (digits * tenTo exponent.toNat) (tenTo (-exponent).toNat)

/-- The whole part, with the sign. -/
def truncate (x : Binary64) : Int :=
  let size := x.significand * twoTo x.exponent.toNat / twoTo (-x.exponent).toNat
  if x.negative then -size else size

end Binary64
end RecordDirectory
