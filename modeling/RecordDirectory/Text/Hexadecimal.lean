/-!
Hexadecimal digits: written in lower case and read in either case.
-/

namespace RecordDirectory
namespace Hexadecimal

def zero : Fin 16 :=
  Fin.ofNat 16 0

def write (n : Fin 16) : Char :=
  Nat.digitChar n

def read? (c : Char) : Option (Fin 16) :=
  if '0' ≤ c ∧ c ≤ '9' then some (Fin.ofNat 16 (c.toNat - '0'.toNat))
  else if 'a' ≤ c ∧ c ≤ 'f' then some (Fin.ofNat 16 (c.toNat - 'a'.toNat + 10))
  else if 'A' ≤ c ∧ c ≤ 'F' then some (Fin.ofNat 16 (c.toNat - 'A'.toNat + 10))
  else none

/-- A digit reads back as its value. -/
@[simp]
theorem read?_write : ∀ n : Fin 16, read? (write n) = some n := by
  decide

end Hexadecimal
end RecordDirectory
