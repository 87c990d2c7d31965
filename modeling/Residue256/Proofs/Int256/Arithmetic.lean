import Residue256.Proofs.Int256.Order
import Residue256.Proofs.Opposite

namespace Residue256

open Fallible

namespace Int256

variable {m n : Int} {v w : Int256}

def Fits (n : Int) : Prop := -2 ^ 255 ≤ n ∧ n ≤ 2 ^ 255 - 1

instance (n : Int) : Decidable (Fits n) := inferInstanceAs (Decidable (_ ∧ _))

theorem Valid.fits (hv : v.Valid) : Fits v.toInt := ⟨hv.minInt_le, hv.le_maxInt⟩

theorem exists_ofInt_eq_ok_of_fits (hn : Fits n) :
    ∃ v, ofInt n = .ok v ∧ v.Valid ∧ v.toInt = n := by
  obtain ⟨v, hv⟩ := exists_ofInt_eq_ok hn.1 hn.2
  exact ⟨v, hv, ofInt_eq_ok_iff.mp hv⟩

theorem ofInt_of_not_fits (hn : ¬Fits n) : ofInt n = .error (.naming .overflow (.int n)) :=
  if_neg hn

theorem ofPattern_pattern_modEq : ofPattern (pattern n) ≡ n [ZMOD 2 ^ 256] := by
  rw [ofPattern_eq_bmod pattern_lt, Int.ModEq, pattern, Int.toNat_of_nonneg (by omega)]
  exact (Int.bmod_emod ..).trans (Int.emod_emod_of_dvd _ (dvd_refl _))

theorem eq_of_modEq (hv : v.Valid) (hw : w.Valid) (h : v.toInt ≡ w.toInt [ZMOD 2 ^ 256]) :
    v = w := by
  have hv' := hv.fits
  have hw' := hw.fits
  rw [← toInt_inj hv hw]
  simp only [Fits, Int.ModEq] at *
  omega

theorem wrappingNeg_spec (v : Int256) :
    ∃ w, v.wrappingNeg = .ok w ∧ w.Valid ∧ w.toInt ≡ -v.toInt [ZMOD 2 ^ 256] := by
  obtain ⟨w, h⟩ := exists_wrappingNeg_eq_ok v
  obtain ⟨hw, hn⟩ := ofInt_eq_ok_iff.mp h
  refine ⟨w, h, hw, ?_⟩
  rw [hn]
  exact ofPattern_pattern_modEq

theorem wrappingNeg_least (hv : v.Valid) (hm : v.toInt = -2 ^ 255) : v.wrappingNeg = .ok v := by
  obtain ⟨w, h, hw, hn⟩ := wrappingNeg_spec v
  have hn' : w.toInt ≡ v.toInt [ZMOD 2 ^ 256] := by
    rw [hm] at hn ⊢
    exact hn.trans (by decide)
  rw [h, eq_of_modEq hw hv hn']

theorem wrappingNeg_wrappingNeg (hv : v.Valid) (h : v.wrappingNeg = .ok w) :
    w.wrappingNeg = .ok v := by
  obtain ⟨w', h₁, -, hw⟩ := wrappingNeg_spec v
  cases h.symm.trans h₁
  obtain ⟨u, h₂, hu, hn⟩ := wrappingNeg_spec w
  have hn' : u.toInt ≡ v.toInt [ZMOD 2 ^ 256] := by
    simpa only [Int.neg_neg] using hn.trans hw.neg
  rw [h₂, eq_of_modEq hu hv hn']

/-- A 256-bit integer as it was given, and the value that its halves stand for. -/
structure Given where
  halves : Halves
  value : Int256
  holds : halves.Holds value
  valid : value.Valid

namespace Given

variable {x y : Given}

def toInt (x : Given) : Int := x.value.toInt

def toOperand (x : Given) : Operand := .int256 x.halves

def ofValid (hv : v.Valid) : Given := ⟨v.toHalves, v, v.holds_toHalves, hv⟩

theorem fits (x : Given) : Fits x.toInt := x.valid.fits

theorem natAbs_le (x : Given) : x.toInt.natAbs ≤ 2 ^ 255 := by
  have := x.fits
  rw [Fits] at this
  omega

theorem compare_eq {c : Comparison} :
    Operand.compare c x.toOperand y.toOperand = .ok (c.onInts x.toInt y.toInt) :=
  Operand.compare_int256 x.holds x.valid y.holds y.valid

theorem equal_of_toInt_eq (h : x.toInt = y.toInt) :
    Operand.compare .eq x.toOperand y.toOperand = .ok true := by
  rw [compare_eq, Comparison.onInts, decide_eq_true h]

end Given

end Int256

namespace Operand

open Int256

variable {a : Operand} {n : Int} {r : Except Fault Operand} {x y : Given}

/-- The result is the 256-bit integer of an integer or, if there is none, a fault that names it. -/
inductive Checked (n : Int) : Except Fault Operand → Prop where
  | exact {v : Int256} (hv : v.Valid) (hn : v.toInt = n) : Checked n (.ok (plain v))
  | overflow (hn : ¬Fits n) : Checked n (.error (.overflow (.int n)))

theorem checked_ofInt (hd : n.natAbs ≤ 2 ^ 256) : Checked n ((ofInt n).map plain) := by
  by_cases hn : Fits n
  · obtain ⟨v, h, hv, hn⟩ := exists_ofInt_eq_ok_of_fits hn
    rw [h]
    exact .exact hv hn
  · rw [ofInt_of_not_fits hn, Fault.naming_of_lt (Number.natAbs_lt_of_le hd)]
    exact .overflow hn

namespace Checked

theorem exists_given (h : Checked n r) (hn : Fits n) :
    ∃ z : Given, r = .ok z.toOperand ∧ z.toInt = n := by
  cases h with
  | exact hv hz => exact ⟨.ofValid hv, rfl, hz⟩
  | overflow ho => exact absurd hn ho

theorem eq_overflow (h : Checked n r) (hn : ¬Fits n) : r = .error (.overflow (.int n)) := by
  cases h with
  | exact hv hz => exact absurd (hz ▸ hv.fits) hn
  | overflow => rfl

theorem exists_ok_iff (h : Checked n r) : (∃ a, r = .ok a) ↔ Fits n := by
  refine ⟨?_, fun hn => ?_⟩
  · rintro ⟨a, rfl⟩
    by_contra hn
    cases h.eq_overflow hn
  · obtain ⟨z, hz, -⟩ := h.exists_given hn
    exact ⟨_, hz⟩

theorem exists_error_iff (h : Checked n r) : (∃ e, r = .error e) ↔ ¬Fits n := by
  rw [← h.exists_ok_iff]
  cases r <;> simp

end Checked

theorem checked_neg (x : Given) : Checked (-x.toInt) (neg x.toOperand) := by
  have := x.natAbs_le
  rw [Given.toOperand, neg_of_holds x.holds]
  exact checked_ofInt (by omega)

theorem combineHalves_eq (f : Int256 → Int256 → Except Fault Int256) :
    combineHalves f x.halves y.halves = (f x.value y.value).map plain := by
  rw [combineHalves, x.holds.value, y.holds.value, ok_bind, ok_bind]
  cases f x.value y.value <;> rfl

theorem checked_add (x y : Given) :
    Checked (x.toInt + y.toInt) (combine .add x.toOperand y.toOperand) := by
  have h : combine .add x.toOperand y.toOperand = combineHalves Int256.add x.halves y.halves := rfl
  have := x.natAbs_le
  have := y.natAbs_le
  rw [h, combineHalves_eq]
  exact checked_ofInt (by omega)

theorem checked_sub (x y : Given) :
    Checked (x.toInt - y.toInt) (combine .sub x.toOperand y.toOperand) := by
  have h : combine .sub x.toOperand y.toOperand = combineHalves Int256.sub x.halves y.halves := rfl
  have := x.natAbs_le
  have := y.natAbs_le
  rw [h, combineHalves_eq]
  exact checked_ofInt (by omega)

theorem exists_sub_of_add (h : combine .add x.toOperand y.toOperand = .ok a) :
    ∃ b, combine .sub a y.toOperand = .ok b ∧ compare .eq b x.toOperand = .ok true := by
  have hs := (checked_add x y).exists_ok_iff.mp ⟨a, h⟩
  obtain ⟨z, hz, hn⟩ := (checked_add x y).exists_given hs
  cases h.symm.trans hz
  have hb : z.toInt - y.toInt = x.toInt := by omega
  obtain ⟨w, hw, hwn⟩ := (checked_sub z y).exists_given (hb ▸ x.fits)
  exact ⟨_, hw, Given.equal_of_toInt_eq (hwn.trans hb)⟩

end Operand

end Residue256
