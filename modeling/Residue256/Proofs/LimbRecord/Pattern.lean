import Residue256.Int256.Bytes
import Residue256.Proofs.Int256.Bytes
import Residue256.Proofs.LimbRecord.Acceptance
import Residue256.Proofs.Scalar.Words

namespace Residue256

namespace Digits

variable {b j k n : Nat}

theorem split_mod : split b j (n % b ^ j) = split b j n := by
  induction j generalizing n with
  | zero => rfl
  | succ j ih =>
    rw [split_succ, split_succ, Nat.pow_succ', Nat.mod_mul_right_mod, Nat.mod_mul_right_div_self,
      ih]

theorem split_mul : split b (j * k) n = (split (b ^ j) k n).flatMap (split b j) := by
  induction k generalizing n with
  | zero => rfl
  | succ k ih =>
    rw [Nat.mul_succ, Nat.add_comm, split_add, ih, split_succ, List.flatMap_cons, split_mod]

end Digits

namespace LimbRecord

variable {v : Int256} {r : LimbRecord} {n : Int}

/-- The record of the bit pattern of an integer. -/
def ofPatternOf (n : Int) : LimbRecord := ⟨Digits.split (2 ^ 64) 4 (Int256.pattern n)⟩

def limbBytes (w : Nat) : List UInt8 := (Digits.split 256 8 w).map UInt8.ofNat

def toBytes (r : LimbRecord) : List UInt8 := r.limbs.flatMap limbBytes

theorem valid_ofPatternOf : (ofPatternOf n).Valid :=
  ⟨Digits.length_split, Digits.lt_of_mem_split (by decide)⟩

theorem toInt_ofPatternOf (h₁ : Int256.minInt ≤ n) (h₂ : n ≤ Int256.maxInt) :
    (ofPatternOf n).toInt = n := by
  have hp : Int256.pattern n < (2 ^ 64) ^ 4 := Int256.pattern_lt
  have ht : (ofPatternOf n).limbs.take 4 = (ofPatternOf n).limbs :=
    List.take_of_length_le (Nat.le_of_eq valid_ofPatternOf.length_eq)
  rw [toInt, ht, ofPatternOf, Digits.join_split_of_lt hp, Int256.ofPattern_pattern h₁ h₂]

theorem Valid.join_lt (hr : r.Valid) : Digits.join (2 ^ 64) r.limbs < 2 ^ 256 := by
  have h := Digits.join_lt hr.lt
  rwa [hr.length_eq] at h

theorem Valid.toInt_eq (hr : r.Valid) :
    r.toInt = Int256.ofPattern (Digits.join (2 ^ 64) r.limbs) := by
  rw [toInt, List.take_of_length_le (Nat.le_of_eq hr.length_eq)]

theorem Valid.bounds (hr : r.Valid) : Int256.minInt ≤ r.toInt ∧ r.toInt ≤ Int256.maxInt := by
  rw [hr.toInt_eq]
  exact Int256.ofPattern_bounds hr.join_lt

theorem ofPatternOf_toInt (hr : r.Valid) : ofPatternOf r.toInt = r := by
  have hs := Digits.split_join (by decide) hr.lt
  rw [hr.length_eq] at hs
  rw [ofPatternOf, hr.toInt_eq, Int256.pattern_ofPattern hr.join_lt, hs]

/-- The two words of each half, the high one read without its sign, are the limbs of the pattern. -/
theorem ofInt256_eq_ok (hv : v.Valid) : ofInt256 v = .ok (ofPatternOf v.toInt) := by
  obtain ⟨l, s⟩ := v
  have hl := hv.low_lt
  have hg := hv.le_high
  have hs := hv.high_lt
  have hw : ([l % 2 ^ 64, l / 2 ^ 64, s % 2 ^ 128 % 2 ^ 64, s % 2 ^ 128 / 2 ^ 64] : List Int) =
      (ofPatternOf (Int256.toInt ⟨l, s⟩)).limbs.map fun (n : Nat) => (n : Int) := by
    simp only [ofPatternOf, Int256.pattern, Int256.toInt, Digits.split_succ, Digits.split_zero,
      List.map_cons, List.map_nil, List.cons.injEq, and_true] at *
    omega
  rw [ofInt256]
  dsimp only
  rw [hw, ofLimbs_eq_ok valid_ofPatternOf]

theorem toBytes_ofPatternOf : (ofPatternOf v.toInt).toBytes = v.toBytes := by
  have h := Digits.split_mul (b := 256) (j := 8) (k := 4) (n := Int256.pattern v.toInt)
  have hb : 256 ^ 8 = 2 ^ 64 := by decide
  rw [hb] at h
  rw [toBytes, ofPatternOf, Int256.toBytes, h, List.map_flatMap]
  rfl

end LimbRecord

end Residue256
