import Residue256.Operation
import Residue256.Proofs.Window

namespace Residue256

open Fallible

variable {F : Field} {h : Int256.Halves} {v : Int256}

namespace Scalar

/-- The residues of a field and the integers of its window, paired by the signed reading. -/
def signedEquiv (F : Field) : Fin F.modulus.value ≃ {n : Int // F.modulus.InWindow n} where
  toFun r := ⟨signed ⟨F, r⟩, inWindow_signed (x := ⟨F, r⟩) r.isLt⟩
  invFun n := ⟨(ofInt F n).value, reduced_ofInt⟩
  left_inv r := Fin.ext (congrArg value (ofInt_signed (x := ⟨F, r⟩) r.isLt))
  right_inv n := Subtype.ext (signed_ofInt n.2)

end Scalar

namespace Target

theorem convert?_of_holds (hh : h.Holds v) (hv : v.Valid) :
    (ofField F).convert? (.int256 h) =
      .ok (if F.modulus.InWindow v.toInt then some (Scalar.ofInt F v.toInt) else none) := by
  rw [← Int256.toScalar?_eq_ok hv]
  simp only [convert?, ofField, hh.value?, ok_bind]

theorem outside_of_holds (hh : h.Holds v) {row : Option Nat} :
    (ofField F).outside h row = .outsideWindow h F row := by
  simp only [outside, ofField, hh.value]

end Target

namespace Operand

theorem toScalar?_of_holds (hh : h.Holds v) (hv : v.Valid) :
    (int256 h).toScalar? (family (.field F)) =
      .ok (if F.modulus.InWindow v.toInt then scalar (Scalar.ofInt F v.toInt) else nothing) := by
  rw [toScalar?, Target.ofOperand, Target.convert?_of_holds hh hv, ok_bind]
  by_cases hw : F.modulus.InWindow v.toInt
  · rw [if_pos hw, if_pos hw]
    rfl
  · rw [if_neg hw, if_neg hw]
    rfl

theorem toScalar_of_holds (hh : h.Holds v) (hv : v.Valid) :
    (int256 h).toScalar (family (.field F)) =
      if F.modulus.InWindow v.toInt then .ok (scalar (Scalar.ofInt F v.toInt))
      else .error (.outsideWindow h F none) := by
  rw [toScalar, Target.ofOperand, Target.convert, Target.convert?_of_holds hh hv, ok_bind]
  by_cases hw : F.modulus.InWindow v.toInt
  · rw [if_pos hw, if_pos hw]
    rfl
  · rw [if_neg hw, if_neg hw]
    simp only [Target.outside_of_holds hh]
    rfl

theorem window_family {w : Int256} (h : F.window = .ok (v, w)) :
    window (family (.field F)) = .ok (tuple [plain v, plain w]) := by
  rw [window, Target.ofOperand, Target.ofField, ok_bind, h]
  rfl

theorem exists_toInt256_eq_ok {x : Scalar} (hx : x.Reduced) :
    ∃ w : Int256, (scalar x).toInt256 = .ok (plain w) ∧ w.Valid ∧ w.toInt = x.signed := by
  obtain ⟨w, h, hw, hn⟩ := Scalar.exists_toInt256_eq_ok hx
  exact ⟨w, by rw [toInt256, h]; rfl, hw, hn⟩

theorem equal_plain {w : Int256} (hh : h.Holds v) : equal (plain w) (int256 h) = (w == v) := by
  have ha : answer? .eq (plain w) (int256 h) = some (w == v) := by
    simp only [answer?, Int256.Halves.compare, Comparison.derive,
      w.holds_toHalves.equal hh]
  have hy : yields (plain w) (int256 h) = false := rfl
  rw [equal, settle, ha, hy]
  · rfl
  all_goals simp

end Operand

/-- A 256-bit integer in the window becomes the scalar of its residue class, and that scalar becomes
it again; one outside becomes none. Every scalar comes back from its 256-bit integer. So the
residues and the integers of the window are paired one to one. -/
theorem conversions_undo_each_other (F : Field) :
    (∀ (h : Int256.Halves) (v : Int256), h.Holds v → v.Valid →
      (F.modulus.InWindow v.toInt →
        ∃ x : Scalar, x.field = F ∧ (x.value : Int) = v.toInt % F.modulus.value ∧
          (Operand.int256 h).toScalar? (.family (.field F)) = .ok (.scalar x) ∧
          (Operand.int256 h).toScalar (.family (.field F)) = .ok (.scalar x) ∧
          ∃ w, (Operand.scalar x).toInt256 = .ok w ∧ Operand.equal w (.int256 h) = true) ∧
      (¬F.modulus.InWindow v.toInt →
        (Operand.int256 h).toScalar? (.family (.field F)) = .ok .nothing ∧
          (Operand.int256 h).toScalar (.family (.field F)) = .error (.outsideWindow h F none))) ∧
    (∀ x : Scalar, x.field = F → x.Reduced →
      ∃ w, (Operand.scalar x).toInt256 = .ok w ∧
        w.toScalar? (.family (.field F)) = .ok (.scalar x)) ∧
    ∃ e : Fin F.modulus.value ≃ {n : Int // F.modulus.InWindow n}, ∀ r, ∃ v : Int256,
      v.Valid ∧ v.toInt = e r ∧ (Operand.scalar ⟨F, r⟩).toInt256 = .ok (.plain v) ∧
        (Operand.plain v).toScalar? (.family (.field F)) = .ok (.scalar ⟨F, r⟩) := by
  have back : ∀ x : Scalar, x.field = F → x.Reduced → ∃ v : Int256, v.Valid ∧ v.toInt = x.signed ∧
      (Operand.scalar x).toInt256 = .ok (.plain v) ∧
        (Operand.plain v).toScalar? (.family (.field F)) = .ok (.scalar x) := by
    rintro x rfl hx
    obtain ⟨v, h, hv, hn⟩ := Operand.exists_toInt256_eq_ok hx
    refine ⟨v, hv, hn, h, ?_⟩
    rw [Operand.plain, Operand.toScalar?_of_holds v.holds_toHalves hv, hn,
      if_pos (Scalar.inWindow_signed hx), Scalar.ofInt_signed hx]
  refine ⟨fun h v hh hv => ⟨fun hw => ?_, fun hw => ⟨?_, ?_⟩⟩, fun x hf hx => ?_, ?_⟩
  · obtain ⟨w, hw₁, hw₂, hw₃⟩ :=
      Operand.exists_toInt256_eq_ok (x := Scalar.ofInt F v.toInt) Scalar.reduced_ofInt
    rw [Scalar.signed_ofInt hw, Int256.toInt_inj hw₂ hv] at hw₃
    subst hw₃
    refine ⟨Scalar.ofInt F w.toInt, rfl, Scalar.value_ofInt, ?_, ?_, _, hw₁, ?_⟩
    · rw [Operand.toScalar?_of_holds hh hv, if_pos hw]
    · rw [Operand.toScalar_of_holds hh hv, if_pos hw]
    · rw [Operand.equal_plain hh, beq_self_eq_true]
  · rw [Operand.toScalar?_of_holds hh hv, if_neg hw]
  · rw [Operand.toScalar_of_holds hh hv, if_neg hw]
  · obtain ⟨v, -, -, h₁, h₂⟩ := back x hf hx
    exact ⟨_, h₁, h₂⟩
  · exact ⟨Scalar.signedEquiv F, fun r => back ⟨F, r⟩ rfl r.isLt⟩

/-- The least value of the widest window there is, and the one below it, in a field that has its
modulus from another one. A half that is a truth value counts as an integer. -/
theorem conversions_undo_each_other_widest :
    let F : Field := .under (.root "a" "Widest" { value := 2 ^ 256 - 1 }) "b" "Below" none
    let h : Int256.Halves := ⟨.truth true, .int (-2 ^ 127)⟩
    let v : Int256 := ⟨1, -2 ^ 127⟩
    let u : Int256 := ⟨0, -2 ^ 127⟩
    (h.Holds v ∧ v.Valid ∧ F.modulus.InWindow v.toInt) ∧
      (u.toHalves.Holds u ∧ u.Valid ∧ ¬F.modulus.InWindow u.toInt) ∧
      (∃ w, (Operand.scalar ⟨F, 2 ^ 255⟩).toInt256 = .ok w ∧ Operand.equal w (.int256 h) = true) ∧
      (Operand.plain u).toScalar? (.family (.field F)) = .ok .nothing ∧
      ∃ w, (Operand.scalar ⟨F, 2 ^ 255⟩).toInt256 = .ok w ∧
        w.toScalar? (.family (.field F)) = .ok (.scalar ⟨F, 2 ^ 255⟩) := by
  intro F h v u
  obtain ⟨h₁, h₂, -⟩ := conversions_undo_each_other F
  have hv : h.Holds v ∧ v.Valid ∧ F.modulus.InWindow v.toInt := ⟨⟨rfl, rfl⟩, by decide, by decide⟩
  have hu : u.toHalves.Holds u ∧ u.Valid ∧ ¬F.modulus.InWindow u.toInt :=
    ⟨⟨rfl, rfl⟩, by decide, by decide⟩
  obtain ⟨⟨G, n⟩, rfl, hn, -, -, hx⟩ := (h₁ h v hv.1 hv.2.1).1 hv.2.2
  have hr : n = 2 ^ 255 := by
    have he : v.toInt % (F.modulus.value : Int) = 2 ^ 255 := by decide
    rw [he] at hn
    exact_mod_cast hn
  subst hr
  exact ⟨hv, hu, hx, ((h₁ _ u hu.1 hu.2.1).2 hu.2.2).1, h₂ ⟨F, 2 ^ 255⟩ rfl (by decide)⟩

end Residue256
