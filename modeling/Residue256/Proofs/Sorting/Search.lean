import Residue256.Proofs.Fallible
import Residue256.Sorting.Search

namespace Residue256.Sorting

open Fallible

variable {ε α : Type} {test : α → Except ε Bool} {p : α → Bool} {late : Bool} {step i : Nat}
  {x : α} {xs ys : List α}

/-- The items that pass a test stand before those that fail it. -/
def Sifted (p : α → Bool) (xs : List α) : Prop := xs.Pairwise fun x y => p y = true → p x = true

theorem Sifted.sublist (h : Sifted p ys) (hs : xs.Sublist ys) : Sifted p xs :=
  List.Pairwise.sublist hs h

theorem Sifted.countP_of_pass (h : Sifted p xs) (hi : i < xs.length) (hp : p xs[i] = true) :
    xs.countP p = i + 1 + (xs.drop (i + 1)).countP p := by
  have hs := List.take_append_drop i xs
  rw [List.drop_eq_getElem_cons hi] at hs
  rw [Sifted, ← hs, List.pairwise_append] at h
  have ht : (xs.take i).countP p = i := by
    rw [List.countP_eq_length.mpr fun x hx => h.2.2 x hx _ List.mem_cons_self hp]
    exact List.length_take_of_le (Nat.le_of_lt hi)
  conv_lhs => rw [← hs, List.countP_append, ht, List.countP_cons_of_pos hp]
  omega

theorem Sifted.countP_of_fail (h : Sifted p xs) (hi : i < xs.length) (hp : ¬p xs[i] = true) :
    xs.countP p = (xs.take i).countP p := by
  have hs := List.take_append_drop i xs
  rw [List.drop_eq_getElem_cons hi] at hs
  rw [Sifted, ← hs, List.pairwise_append, List.pairwise_cons] at h
  have hd : (xs[i] :: xs.drop (i + 1)).countP p = 0 := by
    rw [List.countP_eq_zero, List.forall_mem_cons]
    exact ⟨hp, fun y hy hpy => hp (h.2.1.1 y hy hpy)⟩
  conv_lhs => rw [← hs, List.countP_append, hd, Nat.add_zero]

theorem Sifted.pass_of_mem_take (h : Sifted p xs) : ∀ x ∈ xs.take (xs.countP p), p x = true := by
  induction xs with
  | nil => simp
  | cons y ys ih =>
    rw [Sifted, List.pairwise_cons] at h
    by_cases hp : p y = true
    · rw [List.countP_cons_of_pos hp, List.take_succ_cons, List.forall_mem_cons]
      exact ⟨hp, ih h.2⟩
    · rw [List.countP_cons_of_neg hp, List.countP_eq_zero.mpr fun x hx hpx => hp (h.1 x hx hpx)]
      simp

theorem Sifted.fail_of_mem_drop (h : Sifted p xs) : ∀ x ∈ xs.drop (xs.countP p), ¬p x = true := by
  induction xs with
  | nil => simp
  | cons y ys ih =>
    rw [Sifted, List.pairwise_cons] at h
    by_cases hp : p y = true
    · rw [List.countP_cons_of_pos hp, List.drop_succ_cons]
      exact ih h.2
    · have hn : ∀ x ∈ ys, ¬p x = true := fun x hx hpx => hp (h.1 x hx hpx)
      rw [List.countP_cons_of_neg hp, List.countP_eq_zero.mpr hn, List.drop_zero,
        List.forall_mem_cons]
      exact ⟨hp, hn⟩

theorem halve_eq_ok (ht : ∀ x ∈ xs, test x = .ok (p x)) (h : Sifted p xs) :
    halve late test xs = .ok (xs.countP p) := by
  fun_induction halve late test xs with
  | case1 xs hl hm ih₁ ih₂ =>
    rw [ht _ (List.getElem_mem hm), ok_bind]
    by_cases hp : p xs[middle late xs.length] = true
    · rw [if_pos hp, ih₁ (fun x hx => ht x (List.mem_of_mem_drop hx))
        (h.sublist (List.drop_sublist _ _)), ok_bind, h.countP_of_pass hm hp]
      rfl
    · rw [if_neg hp, ih₂ (fun x hx => ht x (List.mem_of_mem_take hx))
        (h.sublist (List.take_sublist _ _)), h.countP_of_fail hm hp]
  | case2 xs hl =>
    rw [List.eq_nil_of_length_eq_zero (Nat.eq_zero_of_not_pos hl)]
    rfl

theorem gallopOn_eq_ok (ht : ∀ x ∈ xs, test x = .ok (p x)) (h : Sifted p xs) :
    gallopOn late test step xs = .ok (xs.countP p) := by
  fun_induction gallopOn late test step xs with
  | case1 step xs hl ih =>
    rw [ht _ (List.getElem_mem hl), ok_bind]
    by_cases hp : p xs[step] = true
    · rw [if_pos hp, ih (fun x hx => ht x (List.mem_of_mem_drop hx))
        (h.sublist (List.drop_sublist _ _)), ok_bind, h.countP_of_pass hl hp]
      rfl
    · rw [if_neg hp, halve_eq_ok (fun x hx => ht x (List.mem_of_mem_take hx))
        (h.sublist (List.take_sublist _ _)), h.countP_of_fail hl hp]
  | case2 => exact halve_eq_ok ht h

theorem gallop_eq_ok (ht : ∀ x ∈ xs, test x = .ok (p x)) (h : Sifted p xs) :
    gallop late test xs = .ok (xs.countP p) := by
  cases xs with
  | nil => rfl
  | cons x xs =>
    rw [List.forall_mem_cons] at ht
    rw [gallop, ht.1, ok_bind]
    by_cases hp : p x = true
    · rw [if_pos hp, gallopOn_eq_ok ht.2 (h.sublist (List.sublist_cons_self x xs)), ok_bind,
        List.countP_cons_of_pos hp]
      rfl
    · have hi : 0 < (x :: xs).length := Nat.succ_pos _
      rw [if_neg hp, h.countP_of_fail hi hp]
      rfl

end Residue256.Sorting
