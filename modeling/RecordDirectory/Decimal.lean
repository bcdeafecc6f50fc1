import RecordDirectory.Text.Numeral

/-!
Exact decimals: a coefficient of at most 96 bits with up to 28 digits after the point.

The scale is part of a decimal, so `120.5` and `120.50` are two decimals of one value. Zero has no sign.
-/

namespace RecordDirectory

/-- The size of a coefficient is below this, which is two to the power of 96. -/
def Decimal.coefficientBound : Nat := 79228162514264337593543950336

/-- The number of digits after the point is at most this. -/
def Decimal.greatestScale : Nat := 28

/-- The number `coefficient / 10 ^ scale`. -/
structure Decimal where
  coefficient : Int
  scale : Nat
  coefficient_lt : coefficient.natAbs < Decimal.coefficientBound
  scale_le : scale ≤ Decimal.greatestScale
deriving DecidableEq

namespace Decimal

/-- The decimal with these parts, where they are within the bounds. -/
def ofParts? (coefficient : Int) (scale : Nat) : Option Decimal :=
  if h : coefficient.natAbs < coefficientBound ∧ scale ≤ greatestScale then
    some ⟨coefficient, scale, h.1, h.2⟩
  else
    none

instance : Inhabited Decimal := ⟨⟨0, 0, by decide, by decide⟩⟩

/-- Zero without digits after the point. -/
def zero : Decimal where
  coefficient := 0
  scale := 0
  coefficient_lt := by decide
  scale_le := by decide

/-- Whether two decimals have one value, whatever their scales. -/
def sameValue (a b : Decimal) : Bool :=
  a.coefficient * tenTo b.scale == b.coefficient * tenTo a.scale

/-- Digits with a point before the last `scale` of them; at least one digit stands before the point. -/
def writeDigits (size scale : Nat) : List Char :=
  let digits := Numeral.write size
  let padded := List.replicate (scale + 1 - digits.length) '0' ++ digits
  let whole := padded.take (padded.length - scale)
  if scale = 0 then whole else whole ++ '.' :: padded.drop (padded.length - scale)

/-- The digits of a decimal with as many places as its scale says. -/
def write (d : Decimal) : List Char :=
  let digits := writeDigits d.coefficient.natAbs d.scale
  if d.coefficient < 0 then '-' :: digits else digits

def text (d : Decimal) : String :=
  String.ofList d.write

theorem ofParts?_self (d : Decimal) : ofParts? d.coefficient d.scale = some d :=
  dif_pos ⟨d.coefficient_lt, d.scale_le⟩

theorem ofParts?_eq_some_iff {coefficient : Int} {scale : Nat} {d : Decimal} :
    ofParts? coefficient scale = some d ↔ d.coefficient = coefficient ∧ d.scale = scale := by
  constructor
  · intro h
    unfold ofParts? at h
    split at h
    · cases h
      exact ⟨rfl, rfl⟩
    · cases h
  · rintro ⟨rfl, rfl⟩
    exact ofParts?_self d

/-- Having one value is symmetric. -/
theorem sameValue_comm (a b : Decimal) : sameValue a b = sameValue b a := by
  rw [sameValue, sameValue, Bool.eq_iff_iff, beq_iff_eq, beq_iff_eq]
  exact eq_comm

@[simp]
theorem sameValue_self (a : Decimal) : sameValue a a = true := by
  simp [sameValue]

end Decimal

end RecordDirectory
