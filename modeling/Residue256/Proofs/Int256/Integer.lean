import Residue256.Int256.Arithmetic
import Residue256.Proofs.Comparison

namespace Residue256

namespace Number

variable {c : Comparison} {x y : Number} {low high m n : Int}

theorem compareInt?_of_whole? (h : x.whole? = some m) : x.compareInt? n = some (compare m n) := by
  cases x with
  | int k =>
    cases h
    rfl
  | truth b =>
    cases h
    rfl
  | real x => cases h

theorem compare?_of_whole? (hx : x.whole? = some m) (hy : y.whole? = some n) :
    x.compare? y = some (compare m n) := by
  cases x with
  | int k =>
    cases hx
    rw [compare?, compareInt?_of_whole? hy, Option.map_some, Int.compare_swap]
  | truth b =>
    cases hx
    rw [compare?, compareInt?_of_whole? hy, Option.map_some, Int.compare_swap]
  | real x => cases hx

theorem within_of_whole? (h : x.whole? = some m) :
    x.within low high = true ↔ low ≤ m ∧ m ≤ high := by
  rw [within, compareInt?_of_whole? h, compareInt?_of_whole? h]
  simp only [Option.any_some, Bool.and_eq_true, Int.isGE_compare, Int.isLE_compare]

theorem isWritable_of_whole? (h : x.whole? = some n) :
    x.isWritable = true ↔ n.natAbs < 10 ^ maxDigits := by
  cases x with
  | int k =>
    cases h
    exact isWritable_int
  | truth b =>
    cases h
    refine iff_of_true rfl (natAbs_lt_of_le ?_)
    cases b <;> decide
  | real x => cases h

end Number

namespace Int256

variable {c : Comparison} {h k : Halves} {v w : Int256} {m n : Int} {low high : Nat}

theorem ofInt_eq_ok_iff : ofInt n = .ok v ↔ v.Valid ∧ v.toInt = n := by
  constructor
  · intro h
    exact ⟨valid_of_ofInt h, toInt_eq_of_ofInt h⟩
  · rintro ⟨hv, rfl⟩
    exact ofInt_toInt hv

theorem ofInt_of_bounds (h : minInt ≤ n ∧ n ≤ maxInt) :
    ofInt n = .ok ⟨(n % 2 ^ 128).toNat, n / 2 ^ 128⟩ := if_pos h

theorem exists_ofInt_eq_ok (h₁ : minInt ≤ n) (h₂ : n ≤ maxInt) : ∃ v, ofInt n = .ok v :=
  ⟨_, ofInt_of_bounds ⟨h₁, h₂⟩⟩

theorem ofParts_eq_ok (hl : low < 2 ^ 128) (hh : high < 2 ^ 127) :
    ofParts low high = .ok ⟨low, high⟩ := by
  rw [ofParts, if_neg (by omega), if_neg (by omega), Int.toNat_natCast]

theorem exists_neg_eq_ok (h₁ : minInt < v.toInt) (h₂ : v.toInt ≤ maxInt) :
    ∃ w, v.neg = .ok w ∧ w.Valid ∧ w.toInt = -v.toInt := by
  obtain ⟨w, hw⟩ := exists_ofInt_eq_ok (n := -v.toInt)
    (by simp only [minInt, maxInt] at *; omega) (by simp only [minInt, maxInt] at *; omega)
  exact ⟨w, hw, ofInt_eq_ok_iff.mp hw⟩

theorem wrappingNeg_eq_neg (hv : v.Valid) (hm : minInt < v.toInt) : v.wrappingNeg = v.neg := by
  have hx := hv.le_maxInt
  rw [wrappingNeg, neg, ofPattern_pattern]
  · simp only [minInt, maxInt] at *
    omega
  · simp only [minInt, maxInt] at *
    omega

theorem compare_eq_ofOrdering (hv : v.Valid) (hw : w.Valid) :
    v.compare c w = c.ofOrdering (Ord.compare v.toInt w.toInt) := by
  rw [compare]
  refine (Comparison.ofOrdering_eq_derive ?_ ?_).symm
  · rw [Int.compare_eq_lt, less_iff hv hw]
  · rw [Int.compare_eq_eq, beq_iff_eq, toInt_inj hv hw]

namespace Halves

/-- Both halves are whole, and they are those of the value. -/
structure Holds (h : Halves) (v : Int256) : Prop where
  low_eq : h.low.whole? = some (v.low : Int)
  high_eq : h.high.whole? = some v.high

/-- Each half lies in the range of its 128 bits, whatever it is. -/
structure InRange (h : Halves) : Prop where
  low_within : h.low.within 0 (2 ^ 128 - 1) = true
  high_within : h.high.within (-2 ^ 127) (2 ^ 127 - 1) = true

theorem InRange.valid (hr : h.InRange) (hv : h.Holds v) : v.Valid := by
  have hl := (Number.within_of_whole? hv.low_eq).mp hr.low_within
  have hh := (Number.within_of_whole? hv.high_eq).mp hr.high_within
  exact ⟨by omega, hh.1, by omega⟩

theorem InRange.holds (hr : h.InRange) (hl : h.low.whole? = some m) (hs : h.high.whole? = some n) :
    h.Holds ⟨m.toNat, n⟩ := by
  have hb := (Number.within_of_whole? hl).mp hr.low_within
  refine ⟨?_, hs⟩
  rw [hl, Int.toNat_of_nonneg hb.1]

theorem InRange.holds_or (hr : h.InRange) : (∃ v, h.Holds v) ∨ h.value? = none := by
  cases hl : h.low.whole? with
  | none => exact .inr (by simp [value?, hl])
  | some l =>
    cases hs : h.high.whole? with
    | none => exact .inr (by simp [value?, hl, hs])
    | some s => exact .inl ⟨_, hr.holds hl hs⟩

theorem Holds.value? (hv : h.Holds v) : h.value? = some v := by
  simp [Halves.value?, hv.low_eq, hv.high_eq]

theorem Holds.value (hv : h.Holds v) : h.value = .ok v := by
  rw [Halves.value, hv.value?]

theorem Holds.equal (hv : h.Holds v) (hw : k.Holds w) : h.equal k = (v == w) := by
  obtain ⟨l, s⟩ := v
  obtain ⟨m, t⟩ := w
  rw [Bool.eq_iff_iff, Halves.equal, Number.compare?_of_whole? hv.low_eq hw.low_eq,
    Number.compare?_of_whole? hv.high_eq hw.high_eq]
  simp only [Option.some_beq_some, Bool.and_eq_true, beq_iff_eq, Std.LawfulEqCmp.compare_eq_iff_eq,
    Int.natCast_inj, Int256.mk.injEq]

theorem Holds.less (hv : h.Holds v) (hw : k.Holds w) : h.less k = v.less w := by
  rw [Bool.eq_iff_iff, Halves.less, Number.compare?_of_whole? hv.low_eq hw.low_eq,
    Number.compare?_of_whole? hv.high_eq hw.high_eq]
  simp [Int256.less, Int.compare_eq_lt]

theorem Holds.compare (hv : h.Holds v) (hw : k.Holds w) : h.compare c k = v.compare c w := by
  rw [Halves.compare, Int256.compare, hv.equal hw, hv.less hw]

end Halves

theorem holds_toHalves (v : Int256) : v.toHalves.Holds v := ⟨rfl, rfl⟩

end Int256

end Residue256
