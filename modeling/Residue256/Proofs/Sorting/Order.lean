import Residue256.Proofs.Sorting.Ordered
import Residue256.Proofs.Sorting.Permutation

namespace Residue256.Sorting

open Fallible

variable {ε α : Type} {key : α → Int} {S : α → Prop} {less : α → α → Except ε Bool}
  {least n d patience start : Nat} {x : α} {xs ys zs run last base filler : List α}

theorem ordered_rising (h : Orders less key S) (hx : S x) (hs : ∀ y ∈ xs, S y) :
    Ends (fun n => Ordered key S (x :: xs.take n)) (fun _ => False) (rising less x xs) := by
  induction xs generalizing x with
  | nil => exact .singleton hx
  | cons y ys ih =>
    rw [List.forall_mem_cons] at hs
    rw [rising, h y x hs.1 hx, ok_bind]
    by_cases hl : key y < key x
    · rw [decide_eq_true hl]
      exact .singleton hx
    · rw [decide_eq_false hl]
      apply (ih hs.1 hs.2).bind
      exact fun n ho => ho.cons_cons hx (Int.not_lt.mp hl)

theorem ordered_falling (h : Orders less key S) (hx : S x) (hs : ∀ y ∈ xs, S y) :
    Ends (fun n => Ordered (fun x => -key x) S (x :: xs.take n)) (fun _ => False)
      (falling less x xs) := by
  induction xs generalizing x with
  | nil => exact .singleton hx
  | cons y ys ih =>
    rw [List.forall_mem_cons] at hs
    rw [falling, h y x hs.1 hx, ok_bind]
    by_cases hl : key y < key x
    · rw [decide_eq_true hl]
      apply (ih hs.1 hs.2).bind
      exact fun n ho => ho.cons_cons hx (Int.neg_le_neg (Int.le_of_lt hl))
    · rw [decide_eq_false hl]
      exact .singleton hx

theorem ordered_leadingRun (h : Orders less key S) (hx : S x) (hs : ∀ y ∈ xs, S y) :
    Ends (fun r => Ordered key S r.1) (fun _ => False) (leadingRun less x xs) := by
  cases xs with
  | nil => exact .singleton hx
  | cons y ys =>
    rw [List.forall_mem_cons] at hs
    rw [leadingRun, h y x hs.1 hx, ok_bind]
    by_cases hl : key y < key x
    · rw [decide_eq_true hl]
      apply (ordered_falling h hs.1 hs.2).bind
      exact fun n ho => (ho.cons_cons hx (Int.neg_le_neg (Int.le_of_lt hl))).of_reverse
    · rw [decide_eq_false hl]
      apply (ordered_rising h hs.1 hs.2).bind
      exact fun n ho => ho.cons_cons hx (Int.not_lt.mp hl)

theorem ordered_place (h : Orders less key S) (hx : S x) (ho : Ordered key S xs) :
    Ends (Ordered key S) (fun _ => False) (place less xs x) := by
  apply (halve_isPlace h hx ho).bind
  intro n hn
  apply ho.take.append (ho.drop.cons hx fun y hy => Int.le_of_lt (hn.2 y hy))
  intro y hy z hz
  obtain rfl | hz := List.mem_cons.mp hz
  · exact hn.1 y hy
  · exact ho.take_le_drop y hy z hz

theorem ordered_foldlM_place (h : Orders less key S) (hs : ∀ z ∈ zs, S z)
    (ho : Ordered key S run) :
    Ends (Ordered key S) (fun _ => False) (zs.foldlM (place less) run) := by
  induction zs generalizing run with
  | nil => exact ho
  | cons z zs ih =>
    rw [List.forall_mem_cons] at hs
    rw [List.foldlM_cons]
    exact (ordered_place h hs.1 ho).bind fun run' ho' => ih hs.2 ho'

theorem ordered_runs (h : Orders less key S) (hs : ∀ x ∈ xs, S x) :
    Ends (fun rs => ∀ run ∈ rs, Ordered key S run) (fun _ => False) (runs less least xs) := by
  fun_induction runs less least xs with
  | case1 => exact List.forall_mem_nil _
  | case2 x xs ih =>
    rw [List.forall_mem_cons] at hs
    apply (ordered_leadingRun h hs.1 hs.2).bind
    rintro ⟨run, n⟩ ho
    have hf : ∀ z ∈ (xs.take (max n (least - 1))).drop n, S z :=
      fun z hz => hs.2 z (List.mem_of_mem_take (List.mem_of_mem_drop hz))
    apply (ordered_foldlM_place h hf ho).bind
    intro run' ho'
    apply (ih n fun z hz => hs.2 z (List.mem_of_mem_drop hz)).bind
    intro rest hr
    exact List.forall_mem_cons.mpr ⟨ho', hr⟩

theorem forall_mem_of_perm {P : α → Prop} (h : zs.Perm (xs ++ ys)) (hx : ∀ x ∈ xs, P x)
    (hy : ∀ y ∈ ys, P y) : ∀ z ∈ zs, P z :=
  fun z hz => List.forall_mem_append.mpr ⟨hx, hy⟩ z (h.mem_iff.mp hz)

theorem ordered_merger {m : Merger ε α} {pace : Pace} (h : Orders m.ahead key S)
    (hb : Ordered key S base) (hf : Ordered key S filler) (hl : Below key filler base) :
    Ends (fun r => Ordered key S r.1) (fun _ => False) (m.run patience pace base filler) := by
  -- What is merged after a step has the items that are left of both runs, so they only have to come
  -- behind what the step gives.
  have hm : ∀ x, Asks (fun _ => True) (m.ahead x) := fun _ _ => gives_any _
  fun_induction m.run patience pace base filler with
  | case1 _ _ p p' ps q qs _ i j _ ih₁ ih₂ =>
    have hq : S q := hf.all q List.mem_cons_self
    have hp : S p := hb.all p List.mem_cons_self
    rw [h q p hq hp, ok_bind]
    by_cases hlt : key q < key p
    · rw [decide_eq_true hlt]
      apply ((ih₁ hb hf.tail (hl.mono (List.subset_cons_self q qs))).and (ends_merger hm)).bind
      rintro r ⟨ho, hr⟩
      apply ho.cons hq
      exact forall_mem_of_perm hr (hb.le_of_le_head (Int.le_of_lt hlt)) hf.head_le
    · rw [decide_eq_false hlt]
      apply ((ih₂ hb.tail hf (hl.drop (n := 1) hb (by simp))).and (ends_merger hm)).bind
      rintro r ⟨ho, hr⟩
      apply ho.cons hp
      exact forall_mem_of_perm hr hb.head_le (hf.le_of_le_head (Int.not_lt.mp hlt))
  | case2 _ _ p p' ps q qs _ _ _ _ _ _ ih =>
    apply (gallop_isPlace h (hf.all q List.mem_cons_self) hb).bind
    intro n hn
    have hd : ∀ y ∈ (p :: p' :: ps).drop n, key q ≤ key y := fun y hy => Int.le_of_lt (hn.2 y hy)
    split
    · rename_i hs
      rw [List.append_assoc, List.cons_append]
      apply hb.take.stretch _ hn.1
      apply hf.append hb.drop
      intro r hr y hy
      have hlen := List.length_pos_of_mem hy
      rw [List.length_drop] at hlen
      exact (hl.drop hb (by omega)).le_of_length hs r hr y hy
    · rename_i hs
      rw [List.length_drop] at hs
      have hl' := (hl.mono (List.subset_cons_self q qs)).drop hb (n := n) (by omega)
      apply ((ih n hb.drop hf.tail hl').and (ends_merger hm)).bind
      rintro r ⟨ho, hr⟩
      apply hb.take.stretch (ho.cons (hf.all q List.mem_cons_self) _) hn.1
      exact forall_mem_of_perm hr hd hf.head_le
  | case3 _ _ p p' ps q qs _ _ _ _ _ _ ih =>
    apply (gallop_before h (hb.all p List.mem_cons_self) hf).bind
    intro n hn
    have ht : ∀ y ∈ (q :: qs).take n, key y ≤ key p := fun y hy => Int.le_of_lt (hn.1 y hy)
    split
    · exact hf.take.stretch hb ht
    · have hl' := (hl.mono (List.drop_subset n (q :: qs))).drop hb (n := 1) (by simp)
      apply ((ih n hb.tail hf.drop hl').and (ends_merger hm)).bind
      rintro r ⟨ho, hr⟩
      apply hf.take.stretch (ho.cons (hb.all p List.mem_cons_self) _) ht
      exact forall_mem_of_perm hr hb.head_le hn.2
  | case4 _ _ base filler hne =>
    cases filler with
    | nil => exact hb
    | cons q qs =>
      apply hf.append hb (hl.le_of_length _)
      obtain _ | ⟨p, _ | ⟨p', ps⟩⟩ := base
      · exact Nat.zero_le 1
      · exact Nat.le_refl 1
      · exact (hne p p' ps q qs rfl rfl).elim

theorem ordered_cons_merger {m : Merger ε α} {pace : Pace} (h : Orders m.ahead key S)
    (hb : Ordered key S base) (hf : Ordered key S (x :: filler)) (hx : ∀ p ∈ base, key x ≤ key p)
    (hl : Below key filler base) :
    Ends (fun r => Ordered key S (x :: r.1)) (fun _ => False)
      (m.run patience pace base filler) := by
  apply ((ordered_merger h hb hf.tail hl).and (ends_merger fun _ _ => gives_any _)).imp
  rintro r ⟨ho, hr⟩
  exact ho.cons (hf.all x List.mem_cons_self) (forall_mem_of_perm hr hx hf.head_le)

theorem ordered_mergeInner (h : Orders less key S) (hx : Ordered key S xs) (hy : Ordered key S ys)
    (hfirst : ∃ y ∈ ys, ∀ x ∈ xs, key y ≤ key x) (hlast : ∃ x ∈ xs, ∀ y ∈ ys, key y ≤ key x) :
    Ends (fun r => Ordered key S r.1) (fun _ => False) (mergeInner less patience xs ys) := by
  obtain ⟨v, hv, hvx⟩ := hfirst
  obtain ⟨w, hw, hwy⟩ := hlast
  unfold mergeInner
  split
  · cases ys with
    | nil => cases hv
    | cons y ys =>
      have hyv : key y ≤ key v := hy.le_of_le_head (Int.le_refl _) v hv
      exact (ordered_cons_merger (m := ⟨less, true⟩) h hx hy
        (fun z hz => Int.le_trans hyv (hvx z hz))
        fun z hz => ⟨w, hw, hwy z (List.mem_cons_of_mem y hz)⟩).bind fun _ ho => ho
  · have hx' := hx.reverse
    have hw' := List.mem_reverse.mpr hw
    have hvx' : ∀ z ∈ xs.reverse, -key z ≤ -key v :=
      fun z hz => Int.neg_le_neg (hvx z (List.mem_reverse.mp hz))
    cases hxs : xs.reverse with
    | nil =>
      rw [hxs] at hw'
      cases hw'
    | cons x zs =>
      rw [hxs] at hx' hw' hvx'
      have hxw : -key x ≤ -key w := hx'.le_of_le_head (Int.le_refl _) w hw'
      exact (ordered_cons_merger (m := ⟨fun x y => less y x, false⟩) h.flip hy.reverse hx'
        (fun z hz => Int.le_trans hxw (Int.neg_le_neg (hwy z (List.mem_reverse.mp hz))))
        fun z hz => ⟨v, List.mem_reverse.mpr hv, hvx' z (List.mem_cons_of_mem x hz)⟩).bind
          fun _ ho => ho.of_reverse

theorem ordered_merge (h : Orders less key S) (hx : Ordered key S xs) (hy : Ordered key S ys) :
    Ends (fun r => Ordered key S r.1) (fun _ => False) (merge less patience xs ys) := by
  cases ys with
  | nil => exact hx
  | cons y ys =>
    apply (gallop_isPlace h (hy.all y List.mem_cons_self) hx).bind
    rintro n ⟨ht, hd⟩
    cases hl : (xs.drop n).getLast? with
    | none =>
      rw [List.take_of_length_le (List.drop_eq_nil_iff.mp (List.getLast?_eq_none_iff.mp hl))] at ht
      exact hx.stretch hy ht
    | some x =>
      have hxd : x ∈ xs.drop n := List.mem_of_getLast? hl
      have hyx : key y < key x := hd x hxd
      have htx : ∀ z ∈ xs.take n, key z ≤ key x :=
        fun z hz => Int.le_trans (ht z hz) (Int.le_of_lt hyx)
      have hdx : ∀ z ∈ xs.drop n, key z ≤ key x := hx.drop.le_getLast hl
      apply (gallop_isPlace h.flip (hx.all x (List.mem_of_mem_drop hxd)) hy.reverse).bind
      intro k hk
      obtain ⟨hi, ho⟩ := hk.of_reverse
      dsimp only
      split
      · rename_i hinner
        rw [hinner, List.drop_zero] at ho
        apply hx.append hy
        intro z hz w hw
        rw [← List.take_append_drop n xs] at hz
        exact Int.le_trans (List.forall_mem_append.mpr ⟨htx, hdx⟩ z hz) (ho w hw)
      · rename_i hinner
        have hyi : y ∈ (y :: ys).take ((y :: ys).length - k) := by
          obtain ⟨j, hj⟩ := Nat.exists_eq_succ_of_ne_zero hinner
          rw [hj, List.take_succ_cons]
          exact List.mem_cons_self
        apply ((ordered_mergeInner h hx.drop hy.take
          ⟨y, hyi, fun z hz => Int.le_of_lt (hd z hz)⟩
          ⟨x, hxd, fun z hz => Int.le_of_lt (hi z hz)⟩).and
            (ends_mergeInner fun _ _ => gives_any _)).bind
        rintro r ⟨hr, hp⟩
        apply (hx.take.append hr fun z hz => _).append hy.drop
        · intro z hz w hw
          refine Int.le_trans ?_ (ho w hw)
          exact List.forall_mem_append.mpr
            ⟨htx, forall_mem_of_perm hp hdx fun z hz => Int.le_of_lt (hi z hz)⟩ z hz
        · intro z hz
          exact forall_mem_of_perm hp (hx.take_le_drop z hz)
            fun w hw => hy.le_of_le_head (ht z hz) w (List.mem_of_mem_take hw)

theorem ordered_settle {before : List (List α × Nat)} (h : Orders less key S)
    (hl : Ordered key S last) (hb : ∀ r ∈ before, Ordered key S r.1) :
    Ends (fun r => Ordered key S r.1.1 ∧ ∀ s ∈ r.1.2, Ordered key S s.1) (fun _ => False)
      (settle less d patience last before) := by
  induction before generalizing last patience with
  | nil => exact ⟨hl, hb⟩
  | cons r before ih =>
    rw [settle]
    split
    · rw [List.forall_mem_cons] at hb
      exact (ordered_merge h hb.1 hl).bind fun s hs => ih hs hb.2
    · exact ⟨hl, hb⟩

theorem ordered_collapse {before : List (List α)} (h : Orders less key S)
    (hl : Ordered key S last) (hb : ∀ run ∈ before, Ordered key S run) :
    Ends (Ordered key S) (fun _ => False) (collapse less patience last before) := by
  fun_induction collapse less patience last before with
  | case1 => exact hl
  | case2 _ last run =>
    rw [List.forall_mem_singleton] at hb
    exact (ordered_merge h hb hl).bind fun r hr => hr
  | case3 _ last run run' before _ ih =>
    rw [List.forall_mem_cons, List.forall_mem_cons] at hb
    apply (ordered_merge h hb.2.1 hb.1).bind
    rintro ⟨run'', patience⟩ hr
    exact ih run'' patience hl (List.forall_mem_cons.mpr ⟨hr, hb.2.2⟩)
  | case4 _ last run run' before _ ih =>
    rw [List.forall_mem_cons] at hb
    apply (ordered_merge h hb.1 hl).bind
    rintro ⟨last', patience⟩ hr
    exact ih last' patience hr hb.2

theorem ordered_mergeRuns {before : List (List α × Nat)} {runs : List (List α)}
    (h : Orders less key S) (hl : Ordered key S last) (hb : ∀ r ∈ before, Ordered key S r.1)
    (hr : ∀ run ∈ runs, Ordered key S run) :
    Ends (Ordered key S) (fun _ => False) (mergeRuns less n patience start last before runs) := by
  induction runs generalizing patience start last before with
  | nil => exact ordered_collapse h hl (List.forall_mem_map.mpr hb)
  | cons run runs ih =>
    rw [List.forall_mem_cons] at hr
    apply (ordered_settle h hl hb).bind
    rintro ⟨⟨last', before'⟩, patience⟩ ⟨hl', hb'⟩
    exact ih hr.1 (List.forall_mem_cons.mpr ⟨hl', hb'⟩) hr.2

theorem ordered_sort (h : Orders less key S) (hs : ∀ x ∈ xs, S x) :
    Ends (Ordered key S) (fun _ => False) (sort less xs) := by
  apply (ordered_runs h hs).bind
  intro rs hr
  cases rs with
  | nil => exact Ordered.nil
  | cons run rest =>
    rw [List.forall_mem_cons] at hr
    exact ordered_mergeRuns h hr.1 (List.forall_mem_nil _) hr.2

/-- Items that are compared by their keys are sorted by them, whichever pairs are asked about. -/
theorem exists_sort_eq_ok (h : Orders less key S) (hs : ∀ x ∈ xs, S x) :
    ∃ ys, sort less xs = .ok ys ∧ ys.Perm xs ∧ ys.Pairwise fun x y => key x ≤ key y := by
  have hr := (ordered_sort h hs).and (ends_sort fun _ _ => gives_any _)
  cases hys : sort less xs with
  | ok ys =>
    rw [hys] at hr
    exact ⟨ys, rfl, hr.2, hr.1.pairwise⟩
  | error e =>
    rw [hys] at hr
    exact hr.elim

end Residue256.Sorting
