import RecordDirectory.Power

/-!
Whole numbers in decimal digits.

Writing never pads and reading takes ASCII digits only, at least one of them, so a number reads back
from its own digits (`read?_write`, `readSigned?_writeInt`); a sign is read where it is allowed, and
the empty text and a lone sign are no numbers.
-/

namespace RecordDirectory
namespace Numeral

/-- The decimal digits of a number, without leading zeros; zero is one digit. -/
def write (n : Nat) : List Char :=
  Nat.toDigits 10 n

/-- A number with a minus sign where it is negative. -/
def writeInt : Int → List Char
  | .ofNat n => write n
  | .negSucc n => '-' :: write (n + 1)

def text (n : Int) : String :=
  String.ofList (writeInt n)

def value (digits : List Char) : Nat :=
  Nat.ofDigitChars 10 digits 0

def read? (cs : List Char) : Option Nat :=
  if cs.isEmpty then none else if cs.all Char.isDigit then some (value cs) else none

/-- Reads digits after an optional plus sign. -/
def readUnsigned? : List Char → Option Nat
  | '+' :: rest => read? rest
  | cs => read? cs

def readSigned? : List Char → Option Int
  | '+' :: rest => (read? rest).map fun n => (n : Int)
  | '-' :: rest => (read? rest).map fun n => -(n : Int)
  | cs => (read? cs).map fun n => (n : Int)

/-- Whether a number fits a signed word of 64 bits. -/
def fitsSigned64 (n : Int) : Bool :=
  decide (-(signedBound : Int) ≤ n) && decide (n < signedBound)

/-- Whether a number fits an unsigned word of 64 bits. -/
def fitsUnsigned64 (n : Nat) : Bool :=
  decide (n < unsignedBound)

/-- Whether a number fits an unsigned word of 32 bits. -/
def fitsUnsigned32 (n : Nat) : Bool :=
  decide (n < shortBound)

/-- Reads a signed number that fits 64 bits. -/
def readSigned64? (cs : List Char) : Option Int :=
  (readSigned? cs).filter fitsSigned64

theorem fitsSigned64_iff {n : Int} :
    fitsSigned64 n = true ↔ -(signedBound : Int) ≤ n ∧ n < signedBound := by
  rw [fitsSigned64, Bool.and_eq_true, decide_eq_true_eq, decide_eq_true_eq]

theorem write_ne_nil (n : Nat) : write n ≠ [] := by
  rw [write]
  exact Nat.toDigits_ne_nil

theorem isDigit_of_mem_write {n : Nat} {c : Char} (h : c ∈ write n) : c.isDigit = true :=
  Nat.isDigit_of_mem_toDigits (by decide) (by decide) h

@[simp]
theorem value_write (n : Nat) : value (write n) = n :=
  Nat.ofDigitChars_toDigits (by decide) (by decide)

@[simp]
theorem read?_write (n : Nat) : read? (write n) = some n := by
  have hall : (write n).all Char.isDigit = true := by
    rw [List.all_eq_true]
    exact fun c hc => isDigit_of_mem_write hc
  simp [read?, write_ne_nil, hall]

/-- Digits start with no sign. -/
theorem write_head_ne {n : Nat} {sign : Char} (hsign : sign.isDigit = false) (rest : List Char) :
    write n ≠ sign :: rest := by
  intro h
  have := isDigit_of_mem_write (n := n) (c := sign) (by simp [h])
  simp [hsign] at this

@[simp]
theorem readSigned?_write (n : Nat) : readSigned? (write n) = some (n : Int) := by
  unfold readSigned?
  split
  · rename_i h
    exact absurd h (write_head_ne (by decide) _)
  · rename_i h
    exact absurd h (write_head_ne (by decide) _)
  · simp

/-- A number reads back from its own text. -/
@[simp]
theorem readSigned?_writeInt (n : Int) : readSigned? (writeInt n) = some n := by
  cases n with
  | ofNat n => exact readSigned?_write n
  | negSucc n =>
    simp [writeInt, readSigned?]
    omega

end Numeral
end RecordDirectory
