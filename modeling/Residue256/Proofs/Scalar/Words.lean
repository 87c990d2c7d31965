import Residue256.Proofs.Int256.Integer
import Residue256.Proofs.Scalar.Signed
import Residue256.Scalar.Words

namespace Residue256

namespace Digits

variable {b j k n : Nat}

theorem split_add : split b (j + k) n = split b j n ++ split b k (n / b ^ j) := by
  induction j generalizing n with
  | zero => simp
  | succ j ih =>
    rw [Nat.add_right_comm, split_succ, ih, split_succ, List.cons_append, Nat.div_div_eq_div_mul,
      ← Nat.pow_succ']

theorem take_split : (split b (j + k) n).take j = split b j n := by
  rw [split_add, List.take_left' length_split]

theorem drop_split : (split b (j + k) n).drop j = split b k (n / b ^ j) := by
  rw [split_add, List.drop_left' length_split]

end Digits

namespace Scalar

variable {F : Field} {x : Scalar} {i n : Nat} {ns : List Nat}

theorem checkWords_eq_ok (h : ∀ n ∈ ns, n < 2 ^ 64) :
    checkWords checkWord i (ns.map fun (n : Nat) => (n : Int)) = .ok ns := by
  induction ns generalizing i with
  | nil => rfl
  | cons n ns ih =>
    have hn : n < 2 ^ 64 := h n (by simp)
    have hw : checkWord i n = .ok n := by
      rw [checkWord, if_pos (by omega), Int.toNat_natCast]
    rw [List.map_cons, checkWords, hw, ih fun m hm => h m (by simp [hm])]
    rfl

theorem magnitude_eq_ok (hl : ns.length = 4) (h : ∀ n ∈ ns, n < 2 ^ 64) :
    magnitude checkWord (ns.map fun (n : Nat) => (n : Int)) = .ok (Digits.join (2 ^ 64) ns) := by
  rw [magnitude, if_neg (by simp [hl]), checkWords_eq_ok h]
  rfl

/-- The words of a residue are accepted, and nothing is reduced. -/
theorem ofWords_split (h : n < F.modulus.value) :
    ofWords F ((Digits.split (2 ^ 64) 4 n).map fun (n : Nat) => (n : Int)) = .ok (ofInt F n) := by
  have hm := F.modulus.lt
  rw [ofWords, magnitude_eq_ok Digits.length_split (Digits.lt_of_mem_split (by decide)),
    Digits.join_split_of_lt (by omega)]
  exact if_pos h

theorem ofParts_toWords (h : x.value < 2 ^ 255) :
    Int256.ofParts (Digits.join (2 ^ 64) (x.toWords.take 2))
      (Digits.join (2 ^ 64) (x.toWords.drop 2)) = Int256.ofInt x.value := by
  have hl : Digits.join (2 ^ 64) (x.toWords.take 2) = x.value % 2 ^ 128 := by
    rw [toWords, Digits.take_split (j := 2) (k := 2), Digits.join_split, ← Nat.pow_mul]
  have hh : Digits.join (2 ^ 64) (x.toWords.drop 2) = x.value / 2 ^ 128 := by
    rw [toWords, Digits.drop_split (j := 2) (k := 2), Digits.join_split_of_lt (by omega),
      ← Nat.pow_mul]
  rw [hl, hh, Int256.ofParts_eq_ok (by omega) (by omega), eq_comm, Int256.ofInt_eq_ok_iff]
  constructor
  · constructor <;> simp only <;> omega
  · simp only [Int256.toInt]
    omega

end Scalar

end Residue256
