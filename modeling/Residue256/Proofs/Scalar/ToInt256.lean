import Residue256.Proofs.Fallible
import Residue256.Proofs.Scalar.Order
import Residue256.Proofs.Scalar.Words
import Residue256.Window

namespace Residue256.Scalar

open Fallible

variable {x : Scalar}

theorem natAbs_signed_lt (hx : x.Reduced) : x.signed.natAbs < 2 ^ 255 := by
  have h := (inWindow_signed hx).minInt_lt
  have h' := (inWindow_signed hx).le_maxInt
  simp only [Int256.minInt, Int256.maxInt] at *
  omega

theorem toInt256_eq_ofInt (hx : x.Reduced) : x.toInt256 = Int256.ofInt x.signed := by
  have hv := value_magnitude hx
  have hp := ofParts_toWords (x := if x.isNegative then -x else x) (by
    rw [hv]
    exact natAbs_signed_lt hx)
  have hw := inWindow_signed hx
  obtain ⟨v, h⟩ : ∃ v, Int256.ofInt x.signed.natAbs = .ok v := by
    have hl := natAbs_signed_lt hx
    apply Int256.exists_ofInt_eq_ok <;> simp only [Int256.minInt, Int256.maxInt] <;> omega
  obtain ⟨hvalid, hn⟩ := Int256.ofInt_eq_ok_iff.mp h
  rw [hv, h] at hp
  rw [toInt256, compare_maxSigned, ok_bind]
  dsimp only
  rw [hp, ok_bind]
  by_cases hneg : x.isNegative
  · have hs := (isNegative_iff_signed_neg hx).mp hneg
    have hm : Int256.minInt < v.toInt := by
      simp only [Int256.minInt]
      omega
    have ho : -v.toInt = x.signed := by omega
    -- The magnitude is not the least value, so it has an opposite, and wrapping changes nothing.
    rw [if_pos hneg, Int256.wrappingNeg_eq_neg hvalid hm, Int256.neg, ho]
  · have hs : ¬x.signed < 0 := mt (isNegative_iff_signed_neg hx).mpr hneg
    have ho : x.signed = x.signed.natAbs := by omega
    rw [if_neg hneg, ho, h]
    rfl

theorem exists_toInt256_eq_ok (hx : x.Reduced) :
    ∃ v, x.toInt256 = .ok v ∧ v.Valid ∧ v.toInt = x.signed := by
  have hw := inWindow_signed hx
  obtain ⟨v, h⟩ := Int256.exists_ofInt_eq_ok (by have := hw.minInt_lt; omega) hw.le_maxInt
  exact ⟨v, by rw [toInt256_eq_ofInt hx, h], Int256.ofInt_eq_ok_iff.mp h⟩

/-- Every scalar becomes the 256-bit integer of its signed reading, the only integer of the window
in its residue class. The least 256-bit integer is never reached. -/
theorem toInt256_is_signed_reading (x : Scalar) (hx : x.Reduced) :
    ∃ v, x.toInt256 = .ok v ∧ v.Valid ∧ v.toInt = x.signed ∧ v.isNegative = x.isNegative ∧
      v.toInt ≠ Int256.minInt ∧
      ∀ n, n = v.toInt ↔ x.field.modulus.InWindow n ∧ n ≡ x.value [ZMOD x.field.modulus.value] := by
  obtain ⟨v, h, hv, hn⟩ := exists_toInt256_eq_ok hx
  refine ⟨v, h, hv, hn, ?_, ?_, ?_⟩
  · rw [Bool.eq_iff_iff, Int256.isNegative_iff hv, isNegative_iff_signed_neg hx, hn]
  · rw [hn]
    exact (inWindow_signed hx).minInt_lt.ne'
  · intro n
    rw [hn]
    exact eq_signed_iff hx

/-- The lowest negative residue of the widest field, in a field that has its modulus from it. -/
theorem toInt256_is_signed_reading_widest :
    let x : Scalar :=
      ⟨.under (.root "a" "Widest" { value := 2 ^ 256 - 1 }) "b" "Below" none, 2 ^ 255⟩
    x.Reduced ∧ ∃ v, x.toInt256 = .ok v ∧ v.toInt = -(2 ^ 255 - 1) ∧ v.isNegative = true := by
  intro x
  have hx : x.Reduced := by decide
  obtain ⟨v, h, -, hn, hneg, -⟩ := toInt256_is_signed_reading x hx
  exact ⟨hx, v, h, hn.trans (by decide), hneg.trans (by decide)⟩

end Residue256.Scalar
