import Residue256.Operand.Arithmetic
import Residue256.Proofs.Scalar.Signed

namespace Residue256

variable {F : Field} {op : Arithmetic} {a b : Operand} {x : Scalar} {m n : Int} {s t : Bool}

namespace Arithmetic

theorem onInts_modEq {p k l : Int} (hm : m ≡ k [ZMOD p]) (hn : n ≡ l [ZMOD p]) :
    op.onInts m n ≡ op.onInts k l [ZMOD p] := by
  cases op with
  | add => exact hm.add hn
  | sub => exact hm.sub hn
  | mul => exact hm.mul hn

theorem onInts_comm (h : op ≠ .sub) : op.onInts m n = op.onInts n m := by
  cases op with
  | add => exact Int.add_comm m n
  | sub => exact absurd rfl h
  | mul => exact Int.mul_comm m n

end Arithmetic

namespace Operand

/-- The operand is the scalar of an integer in a field, or, if it is no scalar, the integer. -/
inductive StandsFor (F : Field) (n : Int) : Bool → Operand → Prop where
  | scalar : StandsFor F n true (scalar (Scalar.ofInt F n))
  | whole {x : Operand} (h : x.whole? = some n) : StandsFor F n false x

theorem exists_number_of_whole? (h : a.whole? = some n) :
    ∃ x, a = number x ∧ x.whole? = some n := by
  cases a with
  | number x => exact ⟨x, rfl, h⟩
  | _ => cases h

theorem accept?_of_whole? (h : a.whole? = some n) :
    x.accept? a = some (Scalar.ofInt x.field n) := by
  obtain ⟨y, rfl, hy⟩ := exists_number_of_whole? h
  rw [Scalar.accept?, whole?, hy]
  · rfl
  · rintro z ⟨⟩

theorem StandsFor.accept? (hb : StandsFor F n t b) :
    (Scalar.ofInt F m).accept? b = some (Scalar.ofInt F n) := by
  cases hb with
  | scalar => simp only [Scalar.accept?, Scalar.field_ofInt, Field.refines_refl, if_true]
  | whole h => exact accept?_of_whole? h

theorem StandsFor.combine? (hb : StandsFor F n t b) :
    (Scalar.ofInt F m).combine? op b = some (Scalar.ofInt F (op.onInts m n)) := by
  rw [Scalar.combine?, hb.accept?, Option.map_some, Scalar.field_ofInt]
  exact congrArg some (Scalar.ofInt_eq_of_modEq
    (Arithmetic.onInts_modEq Scalar.value_ofInt_modEq Scalar.value_ofInt_modEq))

/-- A scalar steps in for whatever stands on its other side, but not for a difference with it. -/
theorem StandsFor.combine (ha : StandsFor F m s a) (hb : StandsFor F n t b)
    (h : ¬(op = .sub ∧ s = false ∧ t = true)) :
    ∃ c, combine op a b = .ok c ∧ StandsFor F (op.onInts m n) (s || t) c := by
  cases ha with
  | scalar =>
    refine ⟨_, ?_, .scalar⟩
    rw [Operand.combine, fromLeft?, hb.combine?]
    rfl
  | whole hm =>
    obtain ⟨x, rfl, hx⟩ := exists_number_of_whole? hm
    cases hb with
    | scalar =>
      have hop : op ≠ .sub := fun hs => h ⟨hs, rfl, rfl⟩
      refine ⟨_, ?_, .scalar⟩
      rw [Operand.combine, fromRight?, if_neg hop, (StandsFor.whole hm).combine?,
        Arithmetic.onInts_comm hop]
      rfl
    | whole hn =>
      obtain ⟨y, rfl, hy⟩ := exists_number_of_whole? hn
      refine ⟨int (op.onInts m n), ?_, .whole rfl⟩
      simp only [Operand.combine, fromLeft?, hx, hy]
      rfl

theorem combine_sub_scalar (h : a.whole? = some n) :
    combine .sub a (scalar x) = .error .wrongKind := by
  obtain ⟨y, rfl, -⟩ := exists_number_of_whole? h
  rfl

theorem StandsFor.neg (ha : StandsFor F n s a) :
    ∃ c, neg a = .ok c ∧ StandsFor F (-n) s c := by
  cases ha with
  | scalar =>
    refine ⟨_, rfl, ?_⟩
    rw [Scalar.neg_ofInt]
    exact .scalar
  | whole h =>
    obtain ⟨x, rfl, hx⟩ := exists_number_of_whole? h
    cases x with
    | int m =>
      cases hx
      exact ⟨_, rfl, .whole rfl⟩
    | truth b =>
      cases hx
      exact ⟨_, rfl, .whole rfl⟩
    | real y => cases hx

end Operand

end Residue256
