import Residue256.Digits
import Residue256.Fault
import Residue256.Field

namespace Residue256

structure Scalar where
  field : Field
  value : Nat
deriving DecidableEq, Repr

namespace Scalar

def Reduced (x : Scalar) : Prop := x.value < x.field.modulus.value

instance (x : Scalar) : Decidable x.Reduced := inferInstanceAs (Decidable (_ < _))

def ofInt (F : Field) (n : Int) : Scalar := ⟨F, (n % F.modulus.value).toNat⟩

variable {F : Field} {n : Int} {x : Scalar}

@[simp] theorem field_ofInt : (ofInt F n).field = F := rfl

theorem value_ofInt : ((ofInt F n).value : Int) = n % F.modulus.value := by
  have := F.modulus.pos
  exact Int.toNat_of_nonneg (Int.emod_nonneg n (by omega))

theorem reduced_ofInt : (ofInt F n).Reduced := by
  have h : ((ofInt F n).value : Int) < F.modulus.value := by
    rw [value_ofInt]
    exact Int.emod_lt_of_pos n (by have := F.modulus.pos; omega)
  simpa [Reduced] using h

theorem ofInt_value (h : x.Reduced) : ofInt x.field x.value = x := by
  have hv : (x.value : Int) % x.field.modulus.value = x.value :=
    Int.emod_eq_of_lt (by omega) (by simpa [Reduced] using h)
  cases x
  simp_all [ofInt]

instance : Neg Scalar := ⟨fun x => ofInt x.field (-x.value)⟩

@[simp] theorem field_neg : (-x).field = x.field := rfl

theorem value_neg : ((-x).value : Int) = -x.value % x.field.modulus.value := value_ofInt

end Scalar

namespace Field

/-- The largest scalar that is read as a positive number. It belongs to the field that set the
modulus. -/
def maxSigned (F : Field) : Scalar := Scalar.ofInt F.owner F.modulus.half

variable {F : Field}

@[simp] theorem field_maxSigned : F.maxSigned.field = F.owner := rfl

@[simp] theorem value_maxSigned : F.maxSigned.value = F.modulus.half := by
  have h := F.modulus.two_mul_half
  have hv := Scalar.value_ofInt (F := F.owner) (n := F.modulus.half)
  rw [modulus_owner, Int.emod_eq_of_lt (by omega) (by omega)] at hv
  exact_mod_cast hv

end Field

namespace Scalar

variable {x : Scalar}

def isNegative (x : Scalar) : Bool := x.field.maxSigned.value < x.value

/-- The signed reading: the residue, less the modulus if it is negative. -/
def signed (x : Scalar) : Int :=
  if x.isNegative then x.value - x.field.modulus.value else x.value

def toWords (x : Scalar) : List Nat := Digits.split (2 ^ 64) 4 x.value

theorem isNegative_iff : x.isNegative = true ↔ x.field.modulus.half < x.value := by
  simp [isNegative]

end Scalar

end Residue256
