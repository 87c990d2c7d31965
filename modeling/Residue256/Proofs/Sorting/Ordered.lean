import Residue256.Proofs.Sorting.Search

namespace Residue256.Sorting

open Fallible

variable {ε α : Type} {key : α → Int} {S : α → Prop} {less : α → α → Except ε Bool} {late : Bool}
  {n : Nat} {x y : α} {xs ys zs : List α}

/-- Whether an item of a kind is less than another is whether its key is. -/
def Orders (less : α → α → Except ε Bool) (key : α → Int) (S : α → Prop) : Prop :=
  ∀ x y, S x → S y → less x y = .ok (decide (key x < key y))

theorem Orders.flip (h : Orders less key S) : Orders (fun x y => less y x) (fun x => -key x) S := by
  intro x y hx hy
  simp only [h y x hy hx, Int.neg_lt_neg_iff]

/-- All items are of one kind, and they are in the order of their keys. -/
structure Ordered (key : α → Int) (S : α → Prop) (xs : List α) : Prop where
  all : ∀ x ∈ xs, S x
  pairwise : xs.Pairwise fun x y => key x ≤ key y

theorem Ordered.nil : Ordered key S [] := ⟨List.forall_mem_nil S, .nil⟩

theorem Ordered.cons (h : Ordered key S xs) (hx : S x) (hl : ∀ y ∈ xs, key x ≤ key y) :
    Ordered key S (x :: xs) :=
  ⟨List.forall_mem_cons.mpr ⟨hx, h.all⟩, List.pairwise_cons.mpr ⟨hl, h.pairwise⟩⟩

theorem Ordered.singleton (hx : S x) : Ordered key S [x] :=
  ⟨List.forall_mem_singleton.mpr hx, List.pairwise_singleton _ x⟩

theorem Ordered.append (hx : Ordered key S xs) (hy : Ordered key S ys)
    (hl : ∀ x ∈ xs, ∀ y ∈ ys, key x ≤ key y) : Ordered key S (xs ++ ys) :=
  ⟨List.forall_mem_append.mpr ⟨hx.all, hy.all⟩,
    List.pairwise_append.mpr ⟨hx.pairwise, hy.pairwise, hl⟩⟩

theorem Ordered.head_le (h : Ordered key S (x :: xs)) : ∀ y ∈ xs, key x ≤ key y :=
  (List.pairwise_cons.mp h.pairwise).1

theorem Ordered.le_of_le_head (h : Ordered key S (y :: xs)) (hl : key x ≤ key y) :
    ∀ z ∈ y :: xs, key x ≤ key z :=
  List.forall_mem_cons.mpr ⟨hl, fun z hz => Int.le_trans hl (h.head_le z hz)⟩

theorem Ordered.cons_cons (h : Ordered key S (y :: xs)) (hx : S x) (hl : key x ≤ key y) :
    Ordered key S (x :: y :: xs) := h.cons hx (h.le_of_le_head hl)

theorem Ordered.stretch (hx : Ordered key S xs) (hy : Ordered key S (y :: ys))
    (hl : ∀ x ∈ xs, key x ≤ key y) : Ordered key S (xs ++ y :: ys) :=
  hx.append hy fun x hm => hy.le_of_le_head (hl x hm)

theorem Ordered.sublist (h : Ordered key S ys) (hs : xs.Sublist ys) : Ordered key S xs :=
  ⟨fun x hx => h.all x (hs.subset hx), h.pairwise.sublist hs⟩

theorem Ordered.tail (h : Ordered key S (x :: xs)) : Ordered key S xs :=
  h.sublist (List.sublist_cons_self x xs)

theorem Ordered.le_of_append (h : Ordered key S (xs ++ ys)) : ∀ x ∈ xs, ∀ y ∈ ys, key x ≤ key y :=
  (List.pairwise_append.mp h.pairwise).2.2

theorem Ordered.take (h : Ordered key S xs) : Ordered key S (xs.take n) :=
  h.sublist (List.take_sublist n xs)

theorem Ordered.drop (h : Ordered key S xs) : Ordered key S (xs.drop n) :=
  h.sublist (List.drop_sublist n xs)

theorem Ordered.take_le_drop (h : Ordered key S xs) :
    ∀ x ∈ xs.take n, ∀ y ∈ xs.drop n, key x ≤ key y := by
  rw [← List.take_append_drop n xs] at h
  exact h.le_of_append

theorem Ordered.le_getLast (h : Ordered key S xs) (hl : xs.getLast? = some x) :
    ∀ y ∈ xs, key y ≤ key x := by
  obtain ⟨ws, rfl⟩ := List.getLast?_eq_some_iff.mp hl
  rw [List.forall_mem_append, List.forall_mem_singleton]
  exact ⟨fun y hy => h.le_of_append y hy x List.mem_cons_self, Int.le_refl _⟩

theorem Ordered.reverse (h : Ordered key S xs) : Ordered (fun x => -key x) S xs.reverse := by
  refine ⟨fun x hx => h.all x (List.mem_reverse.mp hx), List.pairwise_reverse.mpr ?_⟩
  exact h.pairwise.imp fun hk => Int.neg_le_neg hk

theorem Ordered.of_reverse (h : Ordered (fun x => -key x) S xs) : Ordered key S xs.reverse := by
  simpa only [Int.neg_neg] using h.reverse

theorem Ordered.sifted_not_less (h : Ordered key S xs) :
    Sifted (fun y => !decide (key x < key y)) xs := by
  apply h.pairwise.imp
  simp only [Bool.not_eq_true', decide_eq_false_iff_not]
  omega

theorem Ordered.sifted_less (h : Ordered key S xs) :
    Sifted (fun y => decide (key y < key x)) xs := by
  apply h.pairwise.imp
  simp only [decide_eq_true_eq]
  omega

theorem Orders.not_less (h : Orders less key S) (hx : S x) (hs : ∀ y ∈ xs, S y) :
    ∀ y ∈ xs, (less x y).map Bool.not = .ok (!decide (key x < key y)) := by
  intro y hy
  rw [h x y hx (hs y hy)]
  rfl

def IsPlace (key : α → Int) (x : α) (xs : List α) (n : Nat) : Prop :=
  (∀ y ∈ xs.take n, key y ≤ key x) ∧ ∀ y ∈ xs.drop n, key x < key y

theorem Ordered.isPlace (h : Ordered key S xs) :
    IsPlace key x xs (xs.countP fun y => !decide (key x < key y)) :=
  ⟨fun y hy => by simpa using h.sifted_not_less.pass_of_mem_take y hy,
    fun y hy => by simpa using h.sifted_not_less.fail_of_mem_drop y hy⟩

theorem IsPlace.of_reverse (h : IsPlace (fun x => -key x) x ys.reverse n) :
    (∀ y ∈ ys.take (ys.length - n), key y < key x) ∧
      ∀ y ∈ ys.drop (ys.length - n), key x ≤ key y := by
  rw [IsPlace, List.take_reverse, List.drop_reverse] at h
  exact ⟨fun y hy => Int.neg_lt_neg_iff.mp (h.2 y (List.mem_reverse.mpr hy)),
    fun y hy => Int.neg_le_neg_iff.mp (h.1 y (List.mem_reverse.mpr hy))⟩

theorem halve_isPlace (h : Orders less key S) (hx : S x) (ho : Ordered key S xs) :
    Ends (IsPlace key x xs) (fun _ => False) (halve late (fun y => (less x y).map not) xs) := by
  rw [halve_eq_ok (h.not_less hx ho.all) ho.sifted_not_less]
  exact ho.isPlace

theorem gallop_isPlace (h : Orders less key S) (hx : S x) (ho : Ordered key S xs) :
    Ends (IsPlace key x xs) (fun _ => False) (gallop late (fun y => (less x y).map not) xs) := by
  rw [gallop_eq_ok (h.not_less hx ho.all) ho.sifted_not_less]
  exact ho.isPlace

theorem gallop_before (h : Orders less key S) (hx : S x) (ho : Ordered key S xs) :
    Ends (fun n => (∀ y ∈ xs.take n, key y < key x) ∧ ∀ y ∈ xs.drop n, key x ≤ key y)
      (fun _ => False) (gallop late (fun y => less y x) xs) := by
  rw [gallop_eq_ok (fun y hy => h y x (ho.all y hy) hx) ho.sifted_less]
  exact ⟨fun y hy => by simpa using ho.sifted_less.pass_of_mem_take y hy,
    fun y hy => by simpa using ho.sifted_less.fail_of_mem_drop y hy⟩

/-- No item of the first list comes behind all of the second. -/
def Below (key : α → Int) (xs ys : List α) : Prop := ∀ x ∈ xs, ∃ y ∈ ys, key x ≤ key y

theorem Below.mono (h : Below key xs ys) (hs : zs ⊆ xs) : Below key zs ys := fun z hz => h z (hs hz)

theorem Below.drop (h : Below key xs ys) (ho : Ordered key S ys) (hn : n < ys.length) :
    Below key xs (ys.drop n) := by
  intro x hx
  obtain ⟨y, hy, hxy⟩ := h x hx
  rw [← List.take_append_drop n ys, List.mem_append] at hy
  obtain hy | hy := hy
  · have hz : ys[n] ∈ ys.drop n := by
      rw [List.drop_eq_getElem_cons hn]
      exact List.mem_cons_self
    exact ⟨_, hz, Int.le_trans hxy (ho.take_le_drop y hy _ hz)⟩
  · exact ⟨y, hy, hxy⟩

theorem Below.le_of_length (h : Below key xs ys) (hl : ys.length ≤ 1) :
    ∀ x ∈ xs, ∀ y ∈ ys, key x ≤ key y := by
  intro x hx y hy
  obtain ⟨z, hz, hxz⟩ := h x hx
  obtain ⟨w, rfl⟩ := List.length_eq_one_iff.mp (Nat.le_antisymm hl (List.length_pos_of_mem hy))
  rwa [List.mem_singleton.mp hy, ← List.mem_singleton.mp hz]

end Residue256.Sorting
