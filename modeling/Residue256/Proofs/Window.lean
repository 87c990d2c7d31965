import Residue256.Proofs.Scalar.ToInt256

namespace Residue256

open Fallible

variable {F : Field} {v : Int256}

namespace Modulus

theorem inWindow_half (m : Modulus) : m.InWindow m.half := by
  constructor <;> omega

end Modulus

namespace Field

theorem signed_maxSigned (F : Field) : F.maxSigned.signed = F.modulus.half := by
  have h := F.owner.modulus.inWindow_half
  rw [modulus_owner] at h
  apply Scalar.signed_ofInt
  rwa [modulus_owner]

theorem exists_window_eq_ok (F : Field) :
    ∃ least greatest, F.window = .ok (least, greatest) ∧ least.Valid ∧ greatest.Valid ∧
      least.toInt = -F.modulus.half ∧ greatest.toInt = F.modulus.half := by
  obtain ⟨w, h, hw, hn⟩ := Scalar.exists_toInt256_eq_ok (x := F.maxSigned) Scalar.reduced_ofInt
  rw [signed_maxSigned] at hn
  have hh := F.modulus.inWindow_half
  rw [← hn] at hh
  obtain ⟨u, hu, hu', hm⟩ := Int256.exists_neg_eq_ok hh.minInt_lt hh.le_maxInt
  refine ⟨u, w, ?_, hu', hw, by rw [hm, hn], hn⟩
  rw [window, h, ok_bind, hu]
  rfl

end Field

namespace Int256

theorem words_eq_split (hv : v.Valid) (h : 0 ≤ v.toInt) :
    v.words = (Digits.split (2 ^ 64) 4 v.toInt.toNat).map fun (n : Nat) => (n : Int) := by
  obtain ⟨l, s⟩ := v
  have hl := hv.low_lt
  have hs := hv.high_lt
  simp only [toInt] at *
  obtain ⟨m, rfl⟩ : ∃ m : Nat, s = m := ⟨s.toNat, by omega⟩
  have hn : ((m : Int) * 2 ^ 128 + l).toNat = m * 2 ^ 128 + l := by omega
  rw [hn, words]
  simp only [Digits.split_succ, Digits.split_zero, List.map_cons, List.map_nil, List.cons.injEq,
    and_true]
  omega

/-- A value that is not negative and below the modulus is taken over word by word. -/
theorem ofWords_words (hv : v.Valid) (h₀ : 0 ≤ v.toInt) (h : v.toInt < F.modulus.value) :
    Scalar.ofWords F v.words = .ok (Scalar.ofInt F v.toInt) := by
  rw [words_eq_split hv h₀, Scalar.ofWords_split (by omega), Int.toNat_of_nonneg h₀]

theorem beyond_window_iff {least greatest : Int256} (hv : v.Valid) (hl : least.Valid)
    (hg : greatest.Valid) (hl' : least.toInt = -F.modulus.half)
    (hg' : greatest.toInt = F.modulus.half) :
    (v.compare .lt least || v.compare .gt greatest) = true ↔ ¬F.modulus.InWindow v.toInt := by
  rw [compare_eq_ofOrdering hv hl, compare_eq_ofOrdering hv hg, hl', hg']
  simp only [Comparison.ofOrdering, Comparison.derive, Modulus.InWindow, Bool.or_eq_true,
    Bool.and_eq_true, Bool.not_eq_true', beq_iff_eq, beq_eq_false_iff_ne, ne_eq,
    Int.compare_eq_lt, Int.compare_eq_eq]
  omega

theorem toScalar?_eq_ok (hv : v.Valid) :
    v.toScalar? F = .ok (if F.modulus.InWindow v.toInt then some (Scalar.ofInt F v.toInt)
      else none) := by
  obtain ⟨least, greatest, hw, hl, hg, hl', hg'⟩ := F.exists_window_eq_ok
  have hc := beyond_window_iff hv hl hg hl' hg'
  have hp := F.modulus.two_mul_half
  rw [toScalar?, hw, ok_bind]
  dsimp only
  by_cases h : F.modulus.InWindow v.toInt
  · have hh := h.2
    rw [if_neg (mt hc.mp (not_not_intro h)), if_pos h]
    by_cases hneg : v.isNegative
    · have hn := (isNegative_iff hv).mp hneg
      obtain ⟨u, hu, hu', hm⟩ := exists_neg_eq_ok h.minInt_lt h.le_maxInt
      have hk := h.1
      rw [if_pos hneg, hu, ok_bind, ofWords_words hu' (by omega) (by omega), ok_bind,
        if_pos hneg, hm, Scalar.neg_ofInt, Int.neg_neg]
      rfl
    · have hn := mt (isNegative_iff hv).mpr hneg
      rw [if_neg hneg, pure_bind, ofWords_words hv (by omega) (by omega), ok_bind, if_neg hneg]
      rfl
  · rw [if_pos (hc.mpr h), if_neg h]
    rfl

end Int256

end Residue256
