import Residue256.Proofs.Fallible
import Residue256.Sorting.Runs

namespace Residue256.Sorting

open Fallible

variable {ε α : Type} {Q : ε → Prop} {test : α → Except ε Bool} {less : α → α → Except ε Bool}
  {late : Bool} {step least n d patience start : Nat} {x : α}
  {xs ys zs run last base filler : List α}

/-- All that is known of a question is with what it may fail. -/
def Asks (Q : ε → Prop) (test : α → Except ε Bool) : Prop := ∀ x, Ends (fun _ => True) Q (test x)

theorem Asks.not (h : Asks Q test) : Asks Q fun x => (test x).map Bool.not :=
  fun x => (h x).map fun _ _ => trivial

theorem ends_halve (h : Asks Q test) : Ends (fun _ => True) Q (halve late test xs) := by
  fun_induction halve late test xs with
  | case1 xs hl hm ih₁ ih₂ =>
    apply (h _).bind
    rintro (_ | _) -
    · exact ih₂
    · exact ih₁.bind fun _ _ => trivial
  | case2 => trivial

theorem ends_gallopOn (h : Asks Q test) : Ends (fun _ => True) Q (gallopOn late test step xs) := by
  fun_induction gallopOn late test step xs with
  | case1 step xs hl ih =>
    apply (h _).bind
    rintro (_ | _) -
    · exact ends_halve h
    · exact ih.bind fun _ _ => trivial
  | case2 => exact ends_halve h

theorem ends_gallop (h : Asks Q test) : Ends (fun _ => True) Q (gallop late test xs) := by
  cases xs with
  | nil => trivial
  | cons x xs =>
    apply (h x).bind
    rintro (_ | _) -
    · trivial
    · exact (ends_gallopOn h).bind fun _ _ => trivial

theorem ends_rising (h : ∀ x, Asks Q (less x)) : Ends (fun _ => True) Q (rising less x xs) := by
  induction xs generalizing x with
  | nil => trivial
  | cons y ys ih =>
    apply (h y x).bind
    rintro (_ | _) -
    · exact ih.bind fun _ _ => trivial
    · trivial

theorem ends_falling (h : ∀ x, Asks Q (less x)) : Ends (fun _ => True) Q (falling less x xs) := by
  induction xs generalizing x with
  | nil => trivial
  | cons y ys ih =>
    apply (h y x).bind
    rintro (_ | _) -
    · trivial
    · exact ih.bind fun _ _ => trivial

theorem ends_leadingRun (h : ∀ x, Asks Q (less x)) :
    Ends (fun r => r.1.Perm (x :: xs.take r.2)) Q (leadingRun less x xs) := by
  cases xs with
  | nil => exact .refl _
  | cons y ys =>
    apply (h y x).bind
    rintro (_ | _) -
    · exact (ends_rising h).bind fun n _ => .refl _
    · exact (ends_falling h).bind fun n _ => List.reverse_perm _

theorem ends_place (h : ∀ x, Asks Q (less x)) :
    Ends (fun ys => ys.Perm (x :: xs)) Q (place less xs x) := by
  apply (ends_halve (h x).not).bind
  intro n _
  have hp : (xs.take n ++ x :: xs.drop n).Perm (x :: (xs.take n ++ xs.drop n)) := List.perm_middle
  rwa [List.take_append_drop] at hp

theorem ends_foldlM_place (h : ∀ x, Asks Q (less x)) :
    Ends (fun ys => ys.Perm (run ++ zs)) Q (zs.foldlM (place less) run) := by
  induction zs generalizing run with
  | nil =>
    rw [List.append_nil]
    exact .refl _
  | cons z zs ih =>
    rw [List.foldlM_cons]
    apply (ends_place h).bind
    intro run' hr
    apply ih.imp
    intro ys hy
    exact hy.trans ((hr.append_right zs).trans List.perm_middle.symm)

theorem ends_runs (h : ∀ x, Asks Q (less x)) :
    Ends (fun rs => rs.flatten.Perm xs) Q (runs less least xs) := by
  fun_induction runs less least xs with
  | case1 => exact .refl _
  | case2 x xs ih =>
    apply (ends_leadingRun h).bind
    rintro ⟨run, n⟩ hr
    apply (ends_foldlM_place h).bind
    intro run' hr'
    apply (ih n).bind
    intro rest hrest
    -- The run takes a first part of the list, and what fills it up is the part behind that.
    have hn : n ≤ max n (least - 1) := Nat.le_max_left _ _
    have ht : xs.take n ++ (xs.take (max n (least - 1))).drop n = xs.take (max n (least - 1)) := by
      conv_rhs => rw [← List.take_append_drop n (xs.take (max n (least - 1)))]
      rw [List.take_take, Nat.min_eq_left hn]
    have hp := hr'.trans (hr.append_right _)
    rw [List.cons_append, ht] at hp
    have hf := hp.append hrest
    rwa [List.cons_append, List.take_append_drop] at hf

theorem perm_stretch (h : zs.Perm (xs.drop n ++ ys)) :
    (xs.take n ++ x :: zs).Perm (xs ++ x :: ys) := by
  calc (xs.take n ++ x :: zs).Perm (x :: (xs.take n ++ zs)) := List.perm_middle
    List.Perm _ (x :: (xs.take n ++ (xs.drop n ++ ys))) := (h.append_left _).cons x
    _ = x :: (xs ++ ys) := by rw [← List.append_assoc, List.take_append_drop]
    List.Perm _ (xs ++ x :: ys) := List.perm_middle.symm

theorem ends_merger {m : Merger ε α} {pace : Pace} (h : ∀ x, Asks Q (m.ahead x)) :
    Ends (fun r => r.1.Perm (base ++ filler)) Q (m.run patience pace base filler) := by
  -- Item by item the head of one run goes out; in a gallop a stretch of one goes out as it is.
  fun_induction m.run patience pace base filler with
  | case1 _ _ p p' ps q qs _ i j _ ih₁ ih₂ =>
    apply (h q p).bind
    rintro (_ | _) -
    · apply ih₂.bind
      exact fun r hr => hr.cons p
    · apply ih₁.bind
      exact fun r hr => (hr.cons q).trans List.perm_middle.symm
  | case2 _ _ p p' ps q qs _ _ _ _ _ _ ih =>
    apply (ends_gallop (h q).not).bind
    intro n _
    split
    · rw [List.append_assoc, List.cons_append]
      exact perm_stretch List.perm_append_comm
    · apply (ih n).bind
      exact fun r hr => perm_stretch hr
  | case3 _ _ p p' ps q qs _ _ _ _ _ _ ih =>
    apply (ends_gallop (h · p)).bind
    intro n _
    split
    · rename_i he
      have ht := List.take_append_drop n (q :: qs)
      rw [List.isEmpty_iff.mp he, List.append_nil] at ht
      rw [ht]
      exact List.perm_append_comm
    · apply (ih n).bind
      exact fun r hr => (perm_stretch (hr.trans List.perm_append_comm)).trans List.perm_append_comm
  | case4 => exact List.perm_append_comm

theorem ends_mergeInner (h : ∀ x, Asks Q (less x)) :
    Ends (fun r => r.1.Perm (xs ++ ys)) Q (mergeInner less patience xs ys) := by
  unfold mergeInner
  split
  · cases ys with
    | nil =>
      rw [List.append_nil]
      exact .refl _
    | cons y ys =>
      apply (ends_merger (m := ⟨less, true⟩) h).bind
      exact fun r hr => (hr.cons y).trans List.perm_middle.symm
  · cases hx : xs.reverse with
    | nil =>
      rw [List.reverse_eq_nil_iff.mp hx]
      exact .refl _
    | cons x zs =>
      apply (ends_merger (m := ⟨fun x y => less y x, false⟩) fun x y => h y x).bind
      intro r hr
      have hp := (hr.cons x).trans List.perm_middle.symm
      rw [← hx] at hp
      exact (List.reverse_perm _).trans
        ((hp.trans ((List.reverse_perm _).append (List.reverse_perm _))).trans
          List.perm_append_comm)

theorem ends_merge (h : ∀ x, Asks Q (less x)) :
    Ends (fun r => r.1.Perm (xs ++ ys)) Q (merge less patience xs ys) := by
  cases ys with
  | nil =>
    rw [List.append_nil]
    exact .refl _
  | cons y ys =>
    apply (ends_gallop (h y).not).bind
    intro n _
    cases (xs.drop n).getLast? with
    | none => exact .refl _
    | some x =>
      apply (ends_gallop (fun y => (h y).not x)).bind
      intro k _
      dsimp only
      split
      · exact .refl _
      · apply (ends_mergeInner h).bind
        intro r hr
        have hp := (hr.append_left (xs.take n)).append_right ((y :: ys).drop ((y :: ys).length - k))
        rwa [← List.append_assoc (xs.take n), List.take_append_drop, List.append_assoc xs,
          List.take_append_drop] at hp

def items {β : Type} (before : List (List α × β)) : List α := (before.map Prod.fst).flatten

theorem ends_settle {before : List (List α × Nat)} (h : ∀ x, Asks Q (less x)) :
    Ends (fun r => (r.1.1 ++ items r.1.2).Perm (last ++ items before)) Q
      (settle less d patience last before) := by
  induction before generalizing last patience with
  | nil => exact .refl _
  | cons r before ih =>
    rw [settle]
    split
    · apply (ends_merge h).bind
      intro s hs
      apply ih.imp
      intro t ht
      apply ht.trans
      have hp := (hs.trans List.perm_append_comm).append_right (items before)
      rwa [List.append_assoc] at hp
    · exact .refl _

theorem ends_collapse {before : List (List α)} (h : ∀ x, Asks Q (less x)) :
    Ends (fun zs => zs.Perm (last ++ before.flatten)) Q (collapse less patience last before) := by
  fun_induction collapse less patience last before with
  | case1 _ last =>
    rw [List.flatten_nil, List.append_nil]
    exact .refl _
  | case2 _ last run =>
    apply (ends_merge h).bind
    intro r hr
    rw [List.flatten_singleton]
    exact hr.trans List.perm_append_comm
  | case3 _ last run run' before _ ih =>
    apply (ends_merge h).bind
    rintro ⟨run'', patience⟩ hr
    apply (ih run'' patience).imp
    intro zs hz
    have hp := (hr.trans List.perm_append_comm).append_right before.flatten
    rw [List.append_assoc] at hp
    exact hz.trans (hp.append_left last)
  | case4 _ last run run' before _ ih =>
    apply (ends_merge h).bind
    rintro ⟨last', patience⟩ hr
    apply (ih last' patience).imp
    intro zs hz
    have hp := (hr.trans List.perm_append_comm).append_right (run' :: before).flatten
    rw [List.append_assoc] at hp
    exact hz.trans hp

theorem ends_mergeRuns {before : List (List α × Nat)} {runs : List (List α)}
    (h : ∀ x, Asks Q (less x)) :
    Ends (fun zs => zs.Perm (last ++ items before ++ runs.flatten)) Q
      (mergeRuns less n patience start last before runs) := by
  induction runs generalizing patience start last before with
  | nil =>
    rw [List.flatten_nil, List.append_nil]
    exact ends_collapse h
  | cons run runs ih =>
    apply (ends_settle h).bind
    rintro ⟨⟨last', before'⟩, patience⟩ hs
    apply ih.imp
    intro zs hz
    apply hz.trans
    rw [List.flatten_cons, ← List.append_assoc]
    exact (List.perm_append_comm.trans (hs.append_right run)).append_right runs.flatten

/-- A sort puts a list in another order, and fails only as one of its questions does. -/
theorem ends_sort (h : ∀ x, Asks Q (less x)) :
    Ends (fun ys => ys.Perm xs) Q (sort less xs) := by
  apply (ends_runs h).bind
  intro rs hr
  cases rs with
  | nil => exact hr
  | cons run rest =>
    apply (ends_mergeRuns h).imp
    intro ys hy
    apply hy.trans
    rw [items, List.map_nil, List.flatten_nil, List.append_nil]
    exact hr

end Residue256.Sorting
