import Mathlib.Data.List.Dedup
import Residue256.Operation
import Residue256.Proofs.Fallible
import Residue256.Proofs.Operand.Equality

namespace Residue256

namespace Operand

variable {a b c x : Operand} {ms xs ys : List Operand}

theorem equal_comm (ha : a.Exact) (hb : b.Exact) : equal b a = equal a b := by
  rw [Bool.eq_iff_iff, equal_iff hb ha, equal_iff ha hb, eq_comm]
  exact and_congr_right fun _ => ⟨Related.symm, Related.symm⟩

theorem Exact.key_eq_ok (ha : a.Exact) : ∃ ks, key a = .ok ks := by
  cases ha <;> exact ⟨_, rfl⟩

theorem sameKey_of_equal (ha : a.Exact) (hb : b.Exact) (h : equal a b = true) :
    sameKey a b = .ok true := by
  obtain ⟨ks, hk⟩ := ha.key_eq_ok
  rw [sameKey, ← ((equal_iff ha hb).mp h).1, hk]
  exact congrArg Except.ok (beq_self_eq_true ks)

theorem equal_trans_iff (ha : a.Exact) (hb : b.Exact) (hc : c.Exact) (hab : equal a b = true)
    (hbc : equal b c = true) : equal a c = true ↔ a.Related c := by
  rw [equal_iff ha hc, ((equal_iff ha hb).mp hab).1, ((equal_iff hb hc).mp hbc).1]
  exact and_iff_right rfl

theorem not_related_iff :
    ¬a.Related b ↔ ∃ x y, a = scalar x ∧ b = scalar y ∧ ¬x.field.Related y.field := by
  simp [Related]

/-- The operands are exact, and of any two scalars among them one is of a field that is the field of
the other or below it. -/
structure OneChain (xs : List Operand) : Prop where
  exact_of_mem : ∀ x ∈ xs, x.Exact
  related_of_mem : ∀ x ∈ xs, ∀ y ∈ xs, x.Related y

theorem OneChain.mono (h : OneChain ys) (hs : xs ⊆ ys) : OneChain xs where
  exact_of_mem x hx := h.exact_of_mem x (hs hx)
  related_of_mem x hx y hy := h.related_of_mem x (hs hx) y (hs hy)

theorem oneChain_nil : OneChain [] := ⟨nofun, nofun⟩

theorem OneChain.cons (h : OneChain xs) (hx : x.Exact) (hr : ∀ y ∈ xs, x.Related y) :
    OneChain (x :: xs) where
  exact_of_mem := List.forall_mem_cons.mpr ⟨hx, h.exact_of_mem⟩
  related_of_mem := by
    rw [List.forall_mem_cons]
    refine ⟨List.forall_mem_cons.mpr ⟨Related.refl, hr⟩, fun y hy => ?_⟩
    exact List.forall_mem_cons.mpr ⟨(hr y hy).symm, h.related_of_mem y hy⟩

theorem OneChain.equal_iff (h : OneChain xs) (ha : a ∈ xs) (hb : b ∈ xs) :
    equal a b = true ↔ key a = key b := by
  rw [Operand.equal_iff (h.exact_of_mem a ha) (h.exact_of_mem b hb)]
  exact and_iff_left (h.related_of_mem a ha b hb)

theorem OneChain.exists_equal_iff (h : OneChain (x :: xs)) :
    (∃ y ∈ xs, equal y x = true) ↔ key x ∈ xs.map key := by
  rw [List.mem_map]
  refine exists_congr fun y => and_congr_right fun hy => ?_
  exact h.equal_iff (List.mem_cons_of_mem x hy) List.mem_cons_self

theorem OneChain.isMember_iff (h : OneChain (x :: ms)) :
    isMember x ms = true ↔ key x ∈ ms.map key := by
  rw [isMember, List.any_eq_true]
  exact h.exists_equal_iff

structure Collects (ms xs : List Operand) : Prop where
  subset : ms ⊆ xs
  key_mem : ∀ x ∈ xs, key x ∈ ms.map key
  nodup : (ms.map key).Nodup

theorem Collects.mem_map_key_iff (h : Collects ms xs) {k : Except Fault (List KeyPart)} :
    k ∈ ms.map key ↔ k ∈ xs.map key := by
  constructor
  · intro hk
    exact List.map_subset key h.subset hk
  · intro hk
    obtain ⟨x, hx, rfl⟩ := List.mem_map.mp hk
    exact h.key_mem x hx

theorem Collects.keep (h : Collects ms xs) (hx : key x ∈ ms.map key) : Collects ms (xs ++ [x]) where
  subset := List.subset_append_of_subset_left [x] h.subset
  key_mem := by
    rw [List.forall_mem_append]
    exact ⟨h.key_mem, List.forall_mem_singleton.mpr hx⟩
  nodup := h.nodup

theorem Collects.add (h : Collects ms xs) (hx : key x ∉ ms.map key) :
    Collects (ms ++ [x]) (xs ++ [x]) where
  subset := List.append_subset.mpr
    ⟨List.subset_append_of_subset_left [x] h.subset, List.subset_append_right xs [x]⟩
  key_mem := by
    rw [List.map_append, List.forall_mem_append]
    exact ⟨fun y hy => List.mem_append_left _ (h.key_mem y hy),
      List.forall_mem_singleton.mpr (List.mem_append_right _ List.mem_cons_self)⟩
  nodup := by
    rw [List.map_append]
    exact h.nodup.append (List.nodup_singleton _) (List.disjoint_singleton.mpr hx)

theorem Collects.insert (h : Collects ms xs) (hc : OneChain (xs ++ [x])) :
    ∃ ms', insert ms x = .ok ms' ∧ Collects ms' (xs ++ [x]) := by
  have hx : x ∈ xs ++ [x] := List.mem_append_right xs List.mem_cons_self
  have hs : x :: ms ⊆ xs ++ [x] :=
    List.cons_subset.mpr ⟨hx, List.subset_append_of_subset_left [x] h.subset⟩
  obtain ⟨ks, hk⟩ := (hc.exact_of_mem x hx).key_eq_ok
  have hi : Operand.insert ms x = .ok (if isMember x ms then ms else ms ++ [x]) := by
    rw [Operand.insert, hk]
    rfl
  -- All are of one chain, where to be equal to a member is to have its key.
  have hm : isMember x ms = true ↔ key x ∈ ms.map key := (hc.mono hs).isMember_iff
  refine ⟨_, hi, ?_⟩
  by_cases hin : key x ∈ ms.map key
  · rw [if_pos (hm.mpr hin)]
    exact h.keep hin
  · rw [if_neg (mt hm.mp hin)]
    exact h.add hin

theorem Collects.fold (h : Collects ms xs) (hc : OneChain (xs ++ ys)) :
    ∃ ms', Items.fold Operand.insert ms (ys.map .ok) = (.ok ms', []) ∧ Collects ms' (xs ++ ys) := by
  -- On what is left to read. What was read grows by it, while all of it together stays one chain.
  induction ys generalizing ms xs with
  | nil =>
    rw [List.append_nil]
    exact ⟨ms, rfl, h⟩
  | cons y ys ih =>
    rw [List.append_cons] at hc ⊢
    obtain ⟨ms', hi, h'⟩ := h.insert (hc.mono (List.subset_append_left _ ys))
    obtain ⟨ms'', hf, h''⟩ := ih h' hc
    refine ⟨ms'', ?_, h''⟩
    rw [List.map_cons, Items.fold, hi]
    exact hf

theorem OneChain.distinct (hc : OneChain xs) :
    ∃ ms, distinct (xs.map .ok) = (.ok ms, []) ∧ Collects ms xs := by
  have h : Collects [] [] := ⟨List.nil_subset _, nofun, List.nodup_nil⟩
  exact h.fold hc

theorem Collects.length_eq (h : Collects ms xs) : ms.length = (xs.map key).dedup.length := by
  have hp : (ms.map key).Perm (xs.map key).dedup := by
    rw [List.perm_ext_iff_of_nodup h.nodup (List.nodup_dedup _)]
    intro k
    rw [List.mem_dedup, h.mem_map_key_iff]
  rw [← hp.length_eq, List.length_map]

theorem Collects.isMember_eq (h : Collects ms xs) (hc : OneChain (x :: xs)) :
    isMember x ms = xs.any fun y => equal y x := by
  have hm : OneChain (x :: ms) := hc.mono (List.cons_subset_cons x h.subset)
  rw [Bool.eq_iff_iff, hm.isMember_iff, h.mem_map_key_iff, ← hc.isMember_iff]
  rfl

end Operand

namespace Operation

open Operand

variable {supply : Supply} {x : Operand} {xs : List Operand}

theorem distinctOf_list (hc : OneChain xs) :
    distinctOf supply (.list xs) = ⟨.ok (int (xs.map key).dedup.length), none⟩ := by
  obtain ⟨ms, hd, hm⟩ := hc.distinct
  rw [distinctOf, Supply.read_list, hd, ← hm.length_eq]
  rfl

theorem distinctOf_cons_of_equal (hc : OneChain (x :: xs)) (h : ∃ y ∈ xs, equal y x = true) :
    distinctOf supply (.list (x :: xs)) = distinctOf supply (.list xs) := by
  have hk : key x ∈ xs.map key := hc.exists_equal_iff.mp h
  rw [distinctOf_list hc, distinctOf_list (hc.mono (List.subset_cons_self x xs)), List.map_cons,
    List.dedup_cons_of_mem hk]

theorem distinctOf_cons_of_unequal (hc : OneChain (x :: xs)) (h : ¬∃ y ∈ xs, equal y x = true) :
    distinctOf supply (.list (x :: xs)) =
      ⟨.ok (int ((xs.map key).dedup.length + 1 : Nat)), none⟩ := by
  have hk : key x ∉ xs.map key := mt hc.exists_equal_iff.mpr h
  rw [distinctOf_list hc, List.map_cons, List.dedup_cons_of_notMem hk, List.length_cons]

theorem isInOf_list (hc : OneChain (x :: xs)) :
    isInOf supply x (.list xs) = ⟨.ok (truth (xs.any fun y => equal y x)), none⟩ := by
  obtain ⟨ms, hd, hm⟩ := (hc.mono (List.subset_cons_self x xs)).distinct
  obtain ⟨ks, hk⟩ := (hc.exact_of_mem x List.mem_cons_self).key_eq_ok
  have hx : x.isIn ms = .ok (xs.any fun y => equal y x) := by
    rw [Operand.isIn, hk, Fallible.ok_bind, hm.isMember_eq hc]
    rfl
  simp only [isInOf, Supply.read_list, hd, Fallible.ok_bind, hx]
  rfl

end Operation

open Operand Operation in
/-- Equality of exact values is symmetric, has the other question for its opposite, and keeps the
key. A scalar is equal to the integer that is its residue, and to a scalar of the same residue in a
field above or below its own. Only two scalars of which neither's field is below the other's may
both be equal to a third value and not to each other. So the size of a set of values without such
scalars, and whether it has a further value of that chain in it, do not depend on the order in which
it was made, and a further value makes the set larger only if it is not in it. -/
theorem equal_values_in_sets :
    (∀ a b : Operand, a.Exact → b.Exact →
      equal b a = equal a b ∧ settle .ne a b = some (!equal a b) ∧
      a.compare .ne b = .ok (!equal a b) ∧ (equal a b = true → sameKey a b = .ok true)) ∧
    (∀ x z (n : Int), z.whole? = some n →
      (equal (scalar x) (number z) = true ↔ n = x.value)) ∧
    (∀ x y, equal (scalar x) (scalar y) = true ↔
      x.field.Related y.field ∧ x.value = y.value) ∧
    (∀ a b c : Operand, a.Exact → b.Exact → c.Exact → equal a b = true → equal b c = true →
      (equal a c = false ↔
        ∃ x y, a = scalar x ∧ c = scalar y ∧ ¬x.field.Related y.field)) ∧
    ∀ supply xs ys, OneChain xs → xs.Perm ys →
      distinctOf supply (list xs) = ⟨.ok (int (xs.map key).dedup.length), none⟩ ∧
      distinctOf supply (list ys) = distinctOf supply (list xs) ∧
      ∀ a, OneChain (a :: xs) →
        isInOf supply a (list xs) = ⟨.ok (truth (xs.any fun b => equal b a)), none⟩ ∧
        isInOf supply a (list ys) = isInOf supply a (list xs) ∧
        ((∃ b ∈ xs, equal b a = true) →
          distinctOf supply (list (a :: xs)) = distinctOf supply (list xs)) ∧
        ((¬∃ b ∈ xs, equal b a = true) → distinctOf supply (list (a :: xs)) =
          ⟨.ok (int ((xs.map key).dedup.length + 1 : Nat)), none⟩) := by
  refine ⟨fun a b ha hb => ⟨equal_comm ha hb, ?_, rfl, sameKey_of_equal ha hb⟩, fun x z n hz => ?_,
    fun x y => Scalar.equal_iff, fun a b c ha hb hc hab hbc => ?_, fun supply xs ys hx hp => ?_⟩
  · rw [settle_ne, ha.equal_eq_settle]
  · rw [equal_scalar_whole hz, beq_iff_eq, eq_comm]
  · rw [← not_related_iff, ← equal_trans_iff ha hb hc hab hbc, Bool.not_eq_true]
  · have hy : OneChain ys := hx.mono hp.symm.subset
    refine ⟨distinctOf_list hx, ?_, fun a ha => ⟨isInOf_list ha, ?_, distinctOf_cons_of_equal ha,
      distinctOf_cons_of_unequal ha⟩⟩
    · rw [distinctOf_list hx, distinctOf_list hy, (hp.map key).dedup.length_eq]
    · have hay : OneChain (a :: ys) := ha.mono (hp.symm.cons a).subset
      rw [isInOf_list ha, isInOf_list hay, hp.any_eq]

open Operand Operation in
theorem equal_values_in_sets_five :
    let seven : Field := .root "a" "Seven" { value := 7 }
    let five : Operand := scalar ⟨seven, 5⟩
    let below : Operand := scalar ⟨.under seven "b" "Eleven" (some { value := 11 }), 5⟩
    let stranger : Operand := scalar ⟨.root "c" "Thirteen" { value := 13 }, 5⟩
    let xs : List Operand := [int 5, truth true, five, below]
    equal (int 5) five = true ∧ sameKey five (int 5) = .ok true ∧ equal five below = true ∧
      equal five stranger = false ∧
      distinctOf (fun _ => []) (list xs.reverse) = ⟨.ok (int 2), none⟩ ∧
      isInOf (fun _ => []) below (list xs.reverse) = ⟨.ok (truth true), none⟩ ∧
      distinctOf (fun _ => []) (list (below :: xs)) = ⟨.ok (int 2), none⟩ ∧
      distinctOf (fun _ => []) (list (int 6 :: xs)) = ⟨.ok (int 3), none⟩ := by
  intro seven five below stranger xs
  obtain ⟨h, hi, hs, ht, hl⟩ := equal_values_in_sets
  have hfive : equal five (int 5) = true := (hi _ _ 5 rfl).mpr rfl
  obtain ⟨hc, -, -, hk⟩ := h five (int 5) (.scalar _) (.whole rfl)
  have hw : equal (int 5) stranger = true := by
    rw [(h stranger (int 5) (.scalar _) (.whole rfl)).1]
    exact (hi _ _ 5 rfl).mpr rfl
  have hb : five.Related below := related_scalar.mpr (by decide)
  have hbs : ∀ y ∈ xs, below.Related y := by
    have hn : ∀ z, below.Related (number z) := fun _ => nofun
    simp [xs, hn, hb.symm, Related.refl]
  have hx : OneChain xs := by
    have h₂ : OneChain [five, below] :=
      (oneChain_nil.cons (.scalar _) nofun).cons (.scalar _) (by simpa using hb)
    exact (h₂.cons (.whole rfl) fun _ _ => nofun).cons (.whole rfl) fun _ _ => nofun
  obtain ⟨hn, hr, hm⟩ := hl (fun _ => []) xs xs.reverse hx xs.reverse_perm.symm
  obtain ⟨hin, hin', hd, -⟩ := hm below (hx.cons (.scalar _) hbs)
  obtain ⟨-, -, -, hu⟩ := hm (int 6) (hx.cons (.whole rfl) fun _ _ => nofun)
  refine ⟨hc.trans hfive, hk hfive, (hs _ _).mpr ⟨by decide, rfl⟩, ?_, ?_, ?_, ?_, ?_⟩
  · exact (ht five (int 5) stranger (.scalar _) (.whole rfl) (.scalar _) hfive hw).mpr
      ⟨_, _, rfl, rfl, by decide⟩
  · rw [hr, hn]
    rfl
  · rw [hin', hin]
    rfl
  · rw [hd ⟨below, by simp [xs], (hs _ _).mpr ⟨by decide, rfl⟩⟩, hn]
    rfl
  · rw [hu (by rw [← List.any_eq_true]; decide)]
    rfl

open Operand Operation in
/-- The scalar asked for is of a field that has nothing to do with that of the scalar in the set,
and both are equal to the integer in it. Only the first of two equal values is kept. -/
theorem membership_depends_on_order :
    let one : Operand := int 1
    let kept : Operand := scalar ⟨.curve25519, 1⟩
    let asked : Operand := scalar ⟨.dory, 1⟩
    OneChain [one, kept] ∧ asked.Exact ∧ [one, kept].Perm [kept, one] ∧
      isInOf (fun _ => []) asked (list [one, kept]) = ⟨.ok (truth true), none⟩ ∧
      isInOf (fun _ => []) asked (list [kept, one]) = ⟨.ok (truth false), none⟩ := by
  intro one kept asked
  have hk : OneChain [kept] := oneChain_nil.cons (.scalar _) nofun
  exact ⟨hk.cons (.whole rfl) nofun, .scalar _, .swap _ _ _, rfl, rfl⟩

end Residue256
