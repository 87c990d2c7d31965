import Residue256.Proofs.Comparison
import Residue256.Proofs.Hierarchy
import Residue256.Scalar.Order

namespace Residue256

namespace Scalar

variable {c : Comparison} {x y : Scalar}

theorem ofOrdering_compare : c.ofOrdering (Ord.compare x.value y.value) =
    c.derive (decide (x.value < y.value)) (x.value == y.value) :=
  Comparison.ofOrdering_eq_derive (by rw [Nat.compare_eq_lt, decide_eq_true_iff])
    (by rw [Nat.compare_eq_eq, beq_iff_eq])

theorem equal?_eq_some_iff {b : Bool} :
    x.equal? y = some b ↔ x.knows y = true ∧ b = (x.value == y.value) := by
  by_cases h : x.knows y
  · rw [equal?, if_pos h, Option.some_inj]
    exact ⟨fun e => ⟨h, e.symm⟩, fun e => e.2.symm⟩
  · rw [equal?, if_neg h]
    simp [h]

theorem equal_of_knows (h : x.knows y = true ∨ y.knows x = true) :
    x.equal y = (x.value == y.value) := by
  have hs : Comparison.eq.settle (x.yields y) (x.equal? y) (y.equal? x) =
      some (x.value == y.value) := by
    apply Comparison.settle_of_agree
    · intro b hb
      exact (equal?_eq_some_iff.mp hb).2
    · intro b hb
      rw [(equal?_eq_some_iff.mp hb).2, BEq.comm]
    · simpa [equal?] using h
  rw [equal, hs]
  rfl

theorem equal_iff :
    x.equal y = true ↔ x.field.Related y.field ∧ x.value = y.value := by
  by_cases h : x.knows y = true ∨ y.knows x = true
  · rw [equal_of_knows h, beq_iff_eq]
    exact ⟨fun hv => ⟨h.symm, hv⟩, fun hv => hv.2⟩
  · have hn : x.equal? y = none ∧ y.equal? x = none := by
      rw [not_or] at h
      exact ⟨if_neg h.1, if_neg h.2⟩
    refine iff_of_false ?_ fun hv => h hv.1.symm
    rw [equal, hn.1, hn.2]
    cases x.yields y <;> decide

theorem answer?_of_knows (h : x.knows y = true) :
    x.answer? c y = some (c.ofOrdering (Ord.compare x.value y.value)) := by
  rw [ofOrdering_compare]
  cases c <;> simp only [answer?, equal?, less?, h, equal_of_knows (.inl h), Comparison.derive,
    if_true, Option.map_some]

theorem answer?_of_not_knows (h : ¬x.knows y = true) : x.answer? c y = none := by
  cases c <;> simp [answer?, equal?, less?, h]

/-- Related scalars compare as their residues do, whichever of them answers. -/
theorem compare_of_knows (h : x.knows y = true ∨ y.knows x = true) :
    x.compare c y = .ok (c.ofOrdering (Ord.compare x.value y.value)) := by
  have hs : x.compare? c y = some (c.ofOrdering (Ord.compare x.value y.value)) := by
    apply Comparison.settle_of_agree
    · intro b hb
      by_cases hx : x.knows y
      · rw [answer?_of_knows hx] at hb
        exact (Option.mem_some_iff.mp hb).symm
      · rw [answer?_of_not_knows hx] at hb
        cases hb
    · intro b hb
      by_cases hy : y.knows x
      · rw [answer?_of_knows hy, ← Nat.compare_swap, Comparison.ofOrdering_swap] at hb
        exact (Option.mem_some_iff.mp hb).symm
      · rw [answer?_of_not_knows hy] at hb
        cases hb
    · rcases h with h | h
      · exact .inl (by rw [answer?_of_knows h]; rfl)
      · exact .inr (by rw [answer?_of_knows h]; rfl)
  rw [compare, hs]

theorem compare_of_related (h : x.field.Related y.field) :
    x.compare c y = .ok (c.onInts x.value y.value) := by
  rw [compare_of_knows h.symm, ofOrdering_compare]
  congr 1
  apply Comparison.derive_eq_onInts
  · rw [decide_eq_true_iff, Int.ofNat_lt]
  · rw [beq_iff_eq, Int.natCast_inj]

theorem compare?_of_not_related (h : ¬x.field.Related y.field) :
    x.compare? c y = c.unanswered := by
  have hx : ¬x.knows y = true := fun hk => h (.inr hk)
  have hy : ¬y.knows x = true := fun hk => h (.inl hk)
  rw [compare?, answer?_of_not_knows hx, answer?_of_not_knows hy]
  cases x.yields y <;> rfl

/-- The largest positive scalar knows every scalar of the field, even where it belongs to another
one, from which the field has its modulus. -/
theorem maxSigned_knows : x.field.maxSigned.knows x = true := by
  rw [knows, Field.field_maxSigned]
  exact Field.refines_owner x.field

theorem compare_maxSigned : x.compare .gt x.field.maxSigned = .ok x.isNegative := by
  rw [compare_of_knows (.inr maxSigned_knows)]
  congr 1
  rw [ofOrdering_compare, Bool.eq_iff_iff, isNegative]
  simp only [Comparison.derive, Bool.and_eq_true, Bool.not_eq_true',
    decide_eq_false_iff_not, beq_eq_false_iff_ne, decide_eq_true_eq]
  omega

end Scalar

end Residue256
