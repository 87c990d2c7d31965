import Mathlib.Data.List.Perm.Basic
import Residue256.Operation
import Residue256.Proofs.Operand.Equality
import Residue256.Proofs.Sorting.Order

namespace Residue256

open Fallible

namespace Operand

variable {c : Comparison} {a b : Operand} {x y : Scalar} {xs : List Scalar} {z : Number} {n : Int}
  {r : Bool} {as bs : List Operand}

theorem settle_eq : settle .eq a b = some ((settle .eq a b).getD false) := by
  rw [settle, Comparison.settle]
  generalize (if a.yields b then _ else _ : Option Bool) = r
  cases r <;> rfl

theorem Exact.order?_eq_settle (ha : a.Exact) : order? c a b = settle c a b := by
  cases ha <;> cases b <;> rfl

theorem Exact.compare_eq_settle (ha : a.Exact) :
    compare c a b = (settle c a b).elim (.error .wrongKind) .ok := by
  unfold compare
  split
  · rw [ha.equal_eq_settle, settle_eq, Option.elim_some, Option.getD_some]
  · rw [ha.equal_eq_settle, settle_ne, Option.elim_some]
  · rw [ha.order?_eq_settle]
    cases settle c a b <;> rfl

theorem settle_scalar : settle c (scalar x) (scalar y) = x.compare? c y := rfl

theorem compare_scalar : compare c (scalar x) (scalar y) = x.compare c y := by
  rw [(Exact.scalar x).compare_eq_settle, settle_scalar, Scalar.compare]
  cases x.compare? c y <;> rfl

/-- Two operands are equal or not, as is said, and have no order. -/
structure Unordered (a b : Operand) (equal : Bool) : Prop where
  eq : compare .eq a b = .ok equal
  ne : compare .ne a b = .ok !equal
  order : ∀ c ∈ [Comparison.lt, .le, .gt, .ge], compare c a b = .error .wrongKind

theorem Exact.unordered (ha : a.Exact) (h : ∀ c, settle c a b = ofEquality c r) :
    Unordered a b r := by
  refine ⟨?_, ?_, ?_⟩
  · rw [ha.compare_eq_settle, h]
    rfl
  · rw [ha.compare_eq_settle, h]
    rfl
  · simp only [List.forall_mem_cons, ha.compare_eq_settle, h]
    exact ⟨rfl, rfl, rfl, rfl, List.forall_mem_nil _⟩

theorem unordered_scalar (h : ¬x.field.Related y.field) :
    Unordered (scalar x) (scalar y) false := by
  apply (Exact.scalar x).unordered
  intro c
  rw [settle_scalar, Scalar.compare?_of_not_related h]
  cases c <;> rfl

theorem answer?_whole (hz : z.whole? = some n) :
    answer? c (scalar x) (number z) = ofEquality c ((x.value : Int) == n) := by
  rw [answer?, hz, Option.bind_some]

theorem unordered_scalar_whole (hz : z.whole? = some n) :
    Unordered (scalar x) (number z) ((x.value : Int) == n) := by
  apply (Exact.scalar x).unordered
  intro c
  rw [settle, answer?_whole hz]
  cases c <;> rfl

theorem unordered_whole_scalar (hz : z.whole? = some n) :
    Unordered (number z) (scalar x) ((x.value : Int) == n) := by
  apply (Exact.whole hz).unordered
  intro c
  rw [settle, answer?_whole hz]
  cases c <;> rfl

def rank : Operand → Int
  | scalar x => x.value
  | int256 h => (h.value?.map Int256.toInt).getD 0
  | _ => 0

theorem sorted_list {supply : Supply} (h : sort as = .ok bs) :
    (Operation.sorted supply (list as)).result = .ok (list bs) := by
  simp only [Operation.sorted, Supply.read_list, Items.gather_map_ok]
  rw [ok_bind, h]
  rfl

/-- Operands that are compared by their ranks are sorted by them. -/
theorem exists_sorted_map {α : Type} {f : α → Operand} {xs : List α} (supply : Supply)
    (h : ∀ x ∈ xs, ∀ y ∈ xs,
      compare .lt (f x) (f y) = .ok (Comparison.lt.onInts (f x).rank (f y).rank)) :
    ∃ ys : List α, (Operation.sorted supply (list (xs.map f))).result = .ok (list (ys.map f)) ∧
      ys.Perm xs ∧ ys.Pairwise fun x y => (f x).rank ≤ (f y).rank := by
  have ho : Sorting.Orders less rank fun a => a ∈ xs.map f := by
    intro a b ha hb
    obtain ⟨x, hx, rfl⟩ := List.mem_map.mp ha
    obtain ⟨y, hy, rfl⟩ := List.mem_map.mp hb
    rw [less, h x hx y hy, Comparison.onInts]
  obtain ⟨bs, hs, hp, hk⟩ := Sorting.exists_sort_eq_ok ho fun _ ha => ha
  obtain ⟨ys, rfl, hy⟩ := (congrFun₂ (List.eq_map_comp_perm f) bs xs).mpr hp
  rw [List.pairwise_map] at hk
  exact ⟨ys, sorted_list hs, hy, hk⟩

theorem exists_sorted_scalars (supply : Supply)
    (h : ∀ x ∈ xs, ∀ y ∈ xs, x.field.Related y.field) :
    ∃ ys : List Scalar,
      (Operation.sorted supply (list (xs.map scalar))).result = .ok (list (ys.map scalar)) ∧
      ys.Perm xs ∧ ys.Pairwise fun x y => x.value ≤ y.value := by
  obtain ⟨ys, hs, hp, hk⟩ := exists_sorted_map supply fun x hx y hy => by
    rw [compare_scalar, Scalar.compare_of_related (h x hx y hy), rank, rank]
  exact ⟨ys, hs, hp, hk.imp Int.ofNat_le.mp⟩

/-- Related scalars compare as their residues do, whichever operator is used and whichever of them
stands on the left, and a list of scalars any two of which are related is sorted by the residues.
Unrelated scalars differ, a scalar is equal to the number that is its residue, and neither have an
order. -/
theorem scalars_order_by_residue (supply : Supply) :
    (∀ x y : Scalar, x.field.Related y.field →
      (∀ c, compare c (scalar x) (scalar y) = .ok (c.onInts x.value y.value) ∧
        compare c.swap (scalar y) (scalar x) = compare c (scalar x) (scalar y)) ∧
      (∃! c, c ∈ [Comparison.lt, .eq, .gt] ∧ compare c (scalar x) (scalar y) = .ok true) ∧
      (compare .le (scalar x) (scalar y) = .ok true ↔
        compare .lt (scalar x) (scalar y) = .ok true ∨
          compare .eq (scalar x) (scalar y) = .ok true)) ∧
    (∀ x y : Scalar, ¬x.field.Related y.field → Unordered (scalar x) (scalar y) false) ∧
    (∀ (x : Scalar) (z : Number) (n : Int), z.whole? = some n →
      Unordered (scalar x) (number z) ((x.value : Int) == n) ∧
        Unordered (number z) (scalar x) ((x.value : Int) == n)) ∧
    Fault.wrongKind.kind = "TypeError" ∧
    ∀ xs : List Scalar, (xs.Pairwise fun x y => x.field.Related y.field) →
      ∃ ys : List Scalar,
        (Operation.sorted supply (list (xs.map scalar))).result = .ok (list (ys.map scalar)) ∧
        ys.Perm xs ∧ ys.Pairwise fun x y => x.value ≤ y.value := by
  refine ⟨fun x y h => ?_, fun x y h => unordered_scalar h, fun x z n hz => ?_, rfl, fun xs h => ?_⟩
  · have hc : ∀ c, compare c (scalar x) (scalar y) = .ok (c.onInts x.value y.value) :=
      fun c => by rw [compare_scalar, Scalar.compare_of_related h]
    refine ⟨fun c => ⟨hc c, ?_⟩, ?_, ?_⟩
    · rw [hc, compare_scalar, Scalar.compare_of_related h.symm, Comparison.onInts_swap]
    · simp only [hc, Except.ok.injEq]
      exact Comparison.existsUnique_onInts _ _
    · simp only [hc, Except.ok.injEq, Comparison.onInts, decide_eq_true_eq]
      exact Int.le_iff_lt_or_eq
  · exact ⟨unordered_scalar_whole hz, unordered_whole_scalar hz⟩
  · apply exists_sorted_scalars
    exact h.forall_of_forall_of_flip (fun x _ => .inl (Field.refines_refl _)) (h.imp .symm)

theorem scalars_order_by_residue_eleven :
    let seven : Field := .root "a" "Seven" { value := 7 }
    let eleven : Field := .under seven "b" "Eleven" (some { value := 11 })
    let other : Field := .root "c" "Seven" { value := 7 }
    let nine : Scalar := ⟨eleven, 9⟩
    let five : Scalar := ⟨seven, 5⟩
    compare .ge (scalar five) (scalar nine) = .ok false ∧
      compare .le (scalar nine) (scalar five) = .ok false ∧
      compare .le (scalar ⟨other, 5⟩) (scalar five) = .error .wrongKind ∧
      compare .eq (scalar ⟨other, 5⟩) (scalar five) = .ok false ∧
      compare .gt (truth true) (scalar five) = .error .wrongKind ∧
      compare .eq (int 5) (scalar five) = .ok true ∧
      ∃ ys : List Scalar,
        (Operation.sorted (fun _ => []) (list ([nine, five, ⟨eleven, 5⟩].map scalar))).result =
          .ok (list (ys.map scalar)) ∧
        ys.Perm [nine, five, ⟨eleven, 5⟩] ∧ ys.Pairwise fun x y => x.value ≤ y.value := by
  intro seven eleven other nine five
  obtain ⟨h₁, h₂, h₃, -, h₄⟩ := scalars_order_by_residue fun _ => []
  obtain ⟨hc, hs⟩ := (h₁ five nine (by decide)).1 .ge
  have hu := h₂ ⟨other, 5⟩ five (by decide)
  exact ⟨hc, hs.trans hc, hu.order .le (by decide), hu.eq,
    (h₃ five (.truth true) 1 rfl).2.order .gt (by decide), (h₃ five (.int 5) 5 rfl).2.eq,
    h₄ _ (by decide)⟩

end Operand

end Residue256
