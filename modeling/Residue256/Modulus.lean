import Residue256.Power

namespace Residue256

/-- A number a field may be declared over. Its residues fit four 64-bit words, and half of it fits
255 bits; the conversions rest on that and never look again. -/
structure Modulus where
  value : Nat
  odd : value % 2 = 1 := by decide
  three_le : 3 ≤ value := by decide
  half_lt : (value - 1) / 2 < 2 ^ 255 := by decide
deriving DecidableEq, Repr

namespace Modulus

inductive Rejection where
  | notOdd
  | tooLarge
deriving DecidableEq, Repr

def ofInt (p : Int) : Except Rejection Modulus :=
  if hp : p < 3 ∨ p % 2 = 0 then .error .notOdd
  else if hs : 2 ^ 255 ≤ (p - 1) / 2 then .error .tooLarge
  else .ok
    { value := p.toNat
      odd := by omega
      three_le := by omega
      half_lt := by omega }

variable {m : Modulus}

theorem pos (m : Modulus) : 0 < m.value := Nat.lt_of_lt_of_le (by decide) m.three_le

theorem lt (m : Modulus) : m.value < 2 ^ 256 := by
  have := m.half_lt
  have := m.odd
  omega

/-- The largest residue that is read as a positive number. -/
def half (m : Modulus) : Nat := (m.value - 1) / 2

theorem two_mul_half (m : Modulus) : 2 * m.half + 1 = m.value := by
  have := m.odd
  simp only [half]
  omega

end Modulus

end Residue256
