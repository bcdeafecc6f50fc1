/-!
Powers of two and of ten, and the bounds of machine words.
-/

namespace RecordDirectory

def twoTo (n : Nat) : Nat :=
  Nat.pow 2 n

def tenTo (n : Nat) : Nat :=
  Nat.pow 10 n

@[simp]
theorem twoTo_zero : twoTo 0 = 1 := rfl

theorem twoTo_succ (n : Nat) : twoTo (n + 1) = twoTo n * 2 := rfl

@[simp]
theorem tenTo_zero : tenTo 0 = 1 := rfl

theorem tenTo_succ (n : Nat) : tenTo (n + 1) = tenTo n * 10 := rfl

theorem twoTo_pos (n : Nat) : 0 < twoTo n := by
  induction n with
  | zero => exact Nat.one_pos
  | succ n ih => exact Nat.mul_pos ih (by decide)

theorem tenTo_pos (n : Nat) : 0 < tenTo n := by
  induction n with
  | zero => exact Nat.one_pos
  | succ n ih => exact Nat.mul_pos ih (by decide)

theorem tenTo_add (m n : Nat) : tenTo (m + n) = tenTo m * tenTo n := by
  induction n with
  | zero => exact (Nat.mul_one _).symm
  | succ n ih => rw [← Nat.add_assoc, tenTo_succ, tenTo_succ, ih, Nat.mul_assoc]

/-- Signed words of 64 bits are below this, and not below its negative. -/
def signedBound : Nat := 9223372036854775808

/-- Unsigned words of 64 bits are below this. -/
def unsignedBound : Nat := 18446744073709551616

/-- Unsigned words of 32 bits are below this. -/
def shortBound : Nat := 4294967296

theorem signedBound_eq : signedBound = twoTo 63 := by
  decide

theorem unsignedBound_eq : unsignedBound = twoTo 64 := by
  decide

theorem shortBound_eq : shortBound = twoTo 32 := by
  decide

end RecordDirectory
