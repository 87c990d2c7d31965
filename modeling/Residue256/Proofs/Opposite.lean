import Residue256.Proofs.Layout

namespace Residue256

open Fallible

variable {F : Field} {x : Scalar} {h : Int256.Halves} {v w : Int256}

namespace Scalar

theorem neg_eq_ofInt : -x = ofInt x.field (-x.signed) := ofInt_eq_of_modEq signed_modEq.neg.symm

theorem reduced_neg : (-x).Reduced := reduced_ofInt

theorem signed_neg (hx : x.Reduced) : (-x).signed = -x.signed := by
  rw [neg_eq_ofInt]
  exact signed_ofInt (Modulus.inWindow_neg_iff.mpr (inWindow_signed hx))

theorem toInt256_neg (hx : x.Reduced) (h : x.toInt256 = .ok v) : (-x).toInt256 = v.neg := by
  rw [toInt256_eq_ofInt hx] at h
  rw [toInt256_eq_ofInt reduced_neg, signed_neg hx, Int256.neg, Int256.toInt_eq_of_ofInt h]

end Scalar

namespace Operand

theorem neg_of_holds (hh : h.Holds v) : neg (int256 h) = v.neg.map plain := by
  rw [neg, hh.value, ok_bind]
  cases v.neg <;> rfl

theorem wrappingNeg_of_holds (hh : h.Holds v) :
    (int256 h).wrappingNeg = v.wrappingNeg.map plain := by
  rw [wrappingNeg, askInt256, hh.value, ok_bind]

/-- A 256-bit integer and its opposite are both refused, or become opposite scalars. -/
theorem toScalar?_opposite (hh : h.Holds v) (hv : v.Valid) (hw : w.Valid)
    (hn : w.toInt = -v.toInt) :
    ((int256 h).toScalar? (family (.field F)) = .ok nothing ∧
        (plain w).toScalar? (family (.field F)) = .ok nothing) ∨
      ∃ x : Scalar, x.field = F ∧ (int256 h).toScalar? (family (.field F)) = .ok (scalar x) ∧
        (plain w).toScalar? (family (.field F)) = neg (scalar x) := by
  rw [toScalar?_of_holds hh hv, plain, toScalar?_of_holds w.holds_toHalves hw, hn]
  by_cases hi : F.modulus.InWindow v.toInt
  · right
    refine ⟨Scalar.ofInt F v.toInt, rfl, by rw [if_pos hi], ?_⟩
    rw [if_pos (Modulus.inWindow_neg_iff.mpr hi), neg, Scalar.neg_ofInt]
  · left
    rw [if_neg hi, if_neg (mt Modulus.inWindow_neg_iff.mp hi)]
    exact ⟨rfl, rfl⟩

theorem toScalar?_minInt (hh : h.Holds v) (hv : v.Valid) (hm : v.toInt = Int256.minInt) :
    (int256 h).toScalar? (family (.field F)) = .ok nothing := by
  have hw : ¬F.modulus.InWindow v.toInt := fun hw => hw.minInt_lt.ne' hm
  rw [toScalar?_of_holds hh hv, if_neg hw]

end Operand

open Operand in
/-- The ends of the window of a field are half of the modulus and its opposite. The opposite of a
scalar becomes the opposite of its 256-bit integer, be that exact or modulo `2 ^ 256`. A 256-bit
integer that has an opposite is refused where the opposite is refused, and otherwise the two become
opposite scalars. The least one has none, and every field refuses it. -/
theorem conversions_keep_opposites (F : Field) :
    (∃ least greatest : Int256,
      window (family (.field F)) = .ok (tuple [plain least, plain greatest]) ∧
      (int (-((F.modulus.value - 1) / 2 : Nat))).int256OfNumber = .ok (plain least) ∧
      (int ((F.modulus.value - 1) / 2 : Nat)).int256OfNumber = .ok (plain greatest)) ∧
    (∀ x : Scalar, x.field = F → x.Reduced → ∃ v w : Int256,
      (scalar x).toInt256 = .ok (plain v) ∧ (neg (scalar x) >>= toInt256) = .ok (plain w) ∧
      neg (plain v) = .ok (plain w) ∧ (plain v).wrappingNeg = .ok (plain w)) ∧
    (∀ (h : Int256.Halves) (v : Int256), h.Holds v → v.Valid → v.toInt ≠ Int256.minInt →
      ∃ w : Int256, neg (int256 h) = .ok (plain w) ∧ w.toInt = -v.toInt ∧
        (((int256 h).toScalar? (family (.field F)) = .ok nothing ∧
            (plain w).toScalar? (family (.field F)) = .ok nothing) ∨
          ∃ x : Scalar, x.field = F ∧ (int256 h).toScalar? (family (.field F)) = .ok (scalar x) ∧
            (plain w).toScalar? (family (.field F)) = neg (scalar x))) ∧
    (∀ (h : Int256.Halves) (v : Int256), h.Holds v → v.Valid → v.toInt = Int256.minInt →
      (int256 h).toScalar? (family (.field F)) = .ok nothing ∧
        neg (int256 h) = .error (.overflow (.int (2 ^ 255)))) ∧
    ∀ h : Int256.Halves, h.value? = none → neg (int256 h) = .error .wrongKind := by
  refine ⟨?_, ?_, fun h v hh hv hm => ?_, fun h v hh hv hm => ⟨toScalar?_minInt hh hv hm, ?_⟩,
    fun h hn => ?_⟩
  · obtain ⟨least, greatest, hw, hl, hg, hl', hg'⟩ := F.exists_window_eq_ok
    refine ⟨least, greatest, window_family hw, int256OfNumber_of_ofInt ?_,
      int256OfNumber_of_ofInt ?_⟩
    · rw [Int256.ofInt_eq_ok_iff]
      exact ⟨hl, hl'⟩
    · rw [Int256.ofInt_eq_ok_iff]
      exact ⟨hg, hg'⟩
  · rintro x rfl hx
    obtain ⟨v, hs, hv, hn⟩ := Scalar.exists_toInt256_eq_ok hx
    have hi := Scalar.inWindow_signed hx
    rw [← hn] at hi
    obtain ⟨w, hw, -⟩ := Int256.exists_neg_eq_ok hi.minInt_lt hi.le_maxInt
    refine ⟨v, w, ?_, ?_, ?_, ?_⟩
    · rw [toInt256, hs]
      rfl
    · rw [neg, ok_bind, toInt256, Scalar.toInt256_neg hx hs, hw]
      rfl
    · rw [neg_of_holds v.holds_toHalves, hw]
      rfl
    · rw [wrappingNeg_of_holds v.holds_toHalves, Int256.wrappingNeg_eq_neg hv hi.minInt_lt, hw]
      rfl
  · obtain ⟨w, hw, hw', hn⟩ := Int256.exists_neg_eq_ok (hv.minInt_le.lt_of_ne' hm) hv.le_maxInt
    refine ⟨w, ?_, hn, toScalar?_opposite hh hv hw' hn⟩
    rw [neg_of_holds hh, hw]
    rfl
  · rw [neg_of_holds hh, Int256.neg, hm]
    rfl
  · rw [neg, Int256.Halves.value, hn]
    rfl

open Operand in
/-- Over the widest field there is, in one that has its modulus from it: the least negative scalar,
the two lowest 256-bit integers, of which one has a truth value as a half, and a pair of halves that
stands for no integer. -/
theorem conversions_keep_opposites_widest :
    let F : Field := .under (.root "a" "Widest" { value := 2 ^ 256 - 1 }) "b" "Below" none
    let h : Int256.Halves := ⟨.truth true, .int (-2 ^ 127)⟩
    let u : Int256 := ⟨0, -2 ^ 127⟩
    let k : Int256.Halves := ⟨.real (.finite false 1 0), .int 0⟩
    (∃ v w : Int256, (scalar ⟨F, 2 ^ 255⟩).toInt256 = .ok (plain v) ∧
      (neg (scalar ⟨F, 2 ^ 255⟩) >>= toInt256) = .ok (plain w) ∧
      neg (plain v) = .ok (plain w) ∧ (plain v).wrappingNeg = .ok (plain w)) ∧
    (∃ w : Int256, neg (int256 h) = .ok (plain w) ∧ w.toInt = 2 ^ 255 - 1 ∧
      ∃ x : Scalar, (int256 h).toScalar? (family (.field F)) = .ok (scalar x) ∧
        (plain w).toScalar? (family (.field F)) = neg (scalar x)) ∧
    (plain u).toScalar? (family (.field F)) = .ok nothing ∧
    neg (plain u) = .error (.overflow (.int (2 ^ 255))) ∧ neg (int256 k) = .error .wrongKind := by
  intro F h u k
  obtain ⟨-, h₁, h₂, h₃, h₄⟩ := conversions_keep_opposites F
  have hh : h.Holds ⟨1, -2 ^ 127⟩ := ⟨rfl, rfl⟩
  obtain ⟨w, hw, hn, hs⟩ := h₂ h _ hh (by decide) (by decide)
  have hi : (int256 h).toScalar? (family (.field F)) ≠ .ok nothing := by
    rw [toScalar?_of_holds hh (by decide), if_pos (by decide)]
    rintro ⟨⟩
  obtain ⟨x, -, hx⟩ := hs.resolve_left fun hs => hi hs.1
  exact ⟨h₁ _ rfl (by decide), ⟨w, hw, hn.trans (by decide), x, hx⟩,
    (h₃ _ u u.holds_toHalves (by decide) (by decide)).1,
    (h₃ _ u u.holds_toHalves (by decide) (by decide)).2, h₄ k rfl⟩

end Residue256
