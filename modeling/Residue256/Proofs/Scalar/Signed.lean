import Mathlib.Data.Int.ModEq
import Residue256.Int256.Basic
import Residue256.Scalar.Basic

namespace Residue256

namespace Modulus

variable {m : Modulus} {a b n : Int}

/-- The integers up to half of the modulus on either side of zero. -/
def InWindow (m : Modulus) (n : Int) : Prop := -(m.half : Int) ≤ n ∧ n ≤ m.half

instance (m : Modulus) (n : Int) : Decidable (m.InWindow n) := inferInstanceAs (Decidable (_ ∧ _))

theorem inWindow_iff_natAbs_le : m.InWindow n ↔ n.natAbs ≤ m.half := by
  simp only [InWindow]
  omega

theorem inWindow_neg_iff : m.InWindow (-n) ↔ m.InWindow n := by
  rw [inWindow_iff_natAbs_le, inWindow_iff_natAbs_le, Int.natAbs_neg]

theorem half_le_maxInt (m : Modulus) : (m.half : Int) ≤ Int256.maxInt := by
  have h := m.half_lt
  simp only [half, Int256.maxInt]
  omega

theorem InWindow.minInt_lt (h : m.InWindow n) : Int256.minInt < n := by
  have hm := m.half_le_maxInt
  have hl := h.1
  simp only [Int256.minInt, Int256.maxInt] at *
  omega

theorem InWindow.le_maxInt (h : m.InWindow n) : n ≤ Int256.maxInt := h.2.trans m.half_le_maxInt

theorem InWindow.eq_of_modEq (ha : m.InWindow a) (hb : m.InWindow b) (h : a ≡ b [ZMOD m.value]) :
    a = b := by
  have hm := m.two_mul_half
  obtain ⟨ha₁, ha₂⟩ := ha
  obtain ⟨hb₁, hb₂⟩ := hb
  have hlt : (b - a).natAbs < (m.value : Int).natAbs := by omega
  have h0 : b - a = 0 := Int.eq_zero_of_dvd_of_natAbs_lt_natAbs h.dvd hlt
  omega

end Modulus

namespace Scalar

variable {F : Field} {x : Scalar} {n : Int}

theorem value_ofInt_modEq : ((ofInt F n).value : Int) ≡ n [ZMOD F.modulus.value] := by
  rw [value_ofInt]
  exact Int.mod_modEq n _

theorem ofInt_eq_of_modEq {a b : Int} (h : a ≡ b [ZMOD F.modulus.value]) :
    ofInt F a = ofInt F b := by
  rw [Int.ModEq] at h
  rw [ofInt, ofInt, h]

theorem neg_ofInt : -ofInt F n = ofInt F (-n) := by
  apply ofInt_eq_of_modEq
  exact value_ofInt_modEq.neg

theorem signed_modEq : x.signed ≡ x.value [ZMOD x.field.modulus.value] := by
  by_cases h : x.isNegative
  · rw [signed, if_pos h]
    exact Int.modEq_iff_dvd.mpr ⟨1, by omega⟩
  · rw [signed, if_neg h]

theorem inWindow_signed (hx : x.Reduced) : x.field.modulus.InWindow x.signed := by
  have hm := x.field.modulus.two_mul_half
  rw [Reduced] at hx
  by_cases h : x.isNegative
  · rw [signed, if_pos h]
    rw [isNegative_iff] at h
    constructor <;> omega
  · rw [signed, if_neg h]
    rw [isNegative_iff] at h
    constructor <;> omega

/-- The signed reading is the only integer of the window in the residue class of the scalar. -/
theorem eq_signed_iff (hx : x.Reduced) :
    n = x.signed ↔ x.field.modulus.InWindow n ∧ n ≡ x.value [ZMOD x.field.modulus.value] := by
  constructor
  · rintro rfl
    exact ⟨inWindow_signed hx, signed_modEq⟩
  · rintro ⟨hn, h⟩
    exact hn.eq_of_modEq (inWindow_signed hx) (h.trans signed_modEq.symm)

theorem signed_ofInt (hn : F.modulus.InWindow n) : (ofInt F n).signed = n :=
  ((eq_signed_iff reduced_ofInt).mpr ⟨hn, value_ofInt_modEq.symm⟩).symm

theorem ofInt_signed (hx : x.Reduced) : ofInt x.field x.signed = x := by
  rw [ofInt_eq_of_modEq signed_modEq, ofInt_value hx]

theorem isNegative_iff_signed_neg (hx : x.Reduced) : x.isNegative = true ↔ x.signed < 0 := by
  rw [Reduced] at hx
  by_cases h : x.isNegative
  · refine iff_of_true h ?_
    rw [signed, if_pos h]
    omega
  · refine iff_of_false h ?_
    rw [signed, if_neg h]
    omega

theorem value_magnitude (hx : x.Reduced) :
    (if x.isNegative then -x else x).value = x.signed.natAbs := by
  have hm := x.field.modulus.two_mul_half
  rw [Reduced] at hx
  by_cases h : x.isNegative
  · have hn := isNegative_iff.mp h
    have hv : ((-x).value : Int) = x.field.modulus.value - x.value := by
      rw [value_neg, ← Int.add_emod_right]
      exact (Int.emod_eq_of_lt (by omega) (by omega)).trans (by omega)
    rw [if_pos h, signed, if_pos h]
    omega
  · rw [if_neg h, signed, if_neg h]
    rfl

end Scalar

end Residue256
