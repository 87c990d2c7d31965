import Mathlib.Logic.ExistsUnique
import Residue256.Comparison

namespace Residue256.Comparison

variable {c : Comparison} {rightFirst : Bool} {left right : Option Bool} {r : Bool}

def onInts : Comparison → Int → Int → Bool
  | eq, m, n => decide (m = n)
  | ne, m, n => decide (m ≠ n)
  | lt, m, n => decide (m < n)
  | le, m, n => decide (m ≤ n)
  | gt, m, n => decide (m > n)
  | ge, m, n => decide (m ≥ n)

theorem ofOrdering_swap {o : Ordering} : c.swap.ofOrdering o.swap = c.ofOrdering o := by
  cases c <;> cases o <;> rfl

theorem ofOrdering_eq_derive {o : Ordering} {less equal : Bool} (hl : o = .lt ↔ less = true)
    (he : o = .eq ↔ equal = true) : c.ofOrdering o = c.derive less equal := by
  have hl' : (o == .lt) = less := by
    rw [Bool.eq_iff_iff, beq_iff_eq]
    exact hl
  have he' : (o == .eq) = equal := by
    rw [Bool.eq_iff_iff, beq_iff_eq]
    exact he
  rw [ofOrdering, hl', he']

theorem derive_eq_onInts {m n : Int} {less equal : Bool} (hl : less = true ↔ m < n)
    (he : equal = true ↔ m = n) : c.derive less equal = c.onInts m n := by
  rw [Bool.eq_iff_iff]
  cases c <;> simp only [derive, onInts, hl, he, Bool.or_eq_true, Bool.and_eq_true,
    Bool.not_eq_true', Bool.eq_false_iff, ne_eq, decide_eq_true_eq] <;> omega

theorem ofOrdering_compare {m n : Int} : c.ofOrdering (compare m n) = c.onInts m n := by
  apply derive_eq_onInts
  · rw [beq_iff_eq, Int.compare_eq_lt]
  · rw [beq_iff_eq, Int.compare_eq_eq]

theorem onInts_congr {m n m' n' : Int} (hl : m < n ↔ m' < n') (he : m = n ↔ m' = n') :
    c.onInts m n = c.onInts m' n' := by
  rw [← ofOrdering_compare, ofOrdering]
  apply derive_eq_onInts
  · rw [beq_iff_eq, Int.compare_eq_lt, hl]
  · rw [beq_iff_eq, Int.compare_eq_eq, he]

theorem onInts_swap {m n : Int} : c.swap.onInts n m = c.onInts m n := by
  rw [← ofOrdering_compare, ← Int.compare_swap, ofOrdering_swap, ofOrdering_compare]

theorem existsUnique_onInts (m n : Int) : ∃! c, c ∈ [lt, eq, gt] ∧ c.onInts m n = true := by
  simp only [← ofOrdering_compare]
  cases compare m n with
  | lt => exact ⟨lt, by decide, fun c => by cases c <;> decide⟩
  | eq => exact ⟨eq, by decide, fun c => by cases c <;> decide⟩
  | gt => exact ⟨gt, by decide, fun c => by cases c <;> decide⟩

/-- A question is settled by an answer that all those agree with who do not decline. -/
theorem settle_of_agree (hl : ∀ b ∈ left, b = r) (hr : ∀ b ∈ right, b = r)
    (h : left.isSome ∨ right.isSome) : c.settle rightFirst left right = some r := by
  cases rightFirst <;> cases left <;> cases right <;> simp_all [settle]

theorem settle_ne : ne.settle rightFirst (left.map not) (right.map not) =
    some (!(eq.settle rightFirst left right).getD false) := by
  cases rightFirst <;> cases left <;> cases right <;> rfl

end Residue256.Comparison
